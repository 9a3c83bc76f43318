import IssueNotice.Proofs.Statistics.Summary
import Mathlib.Data.List.Nodup

/-!
# Reference counts

Statistics keep a sum of efforts and a distribution for each metric, and a distribution keeps a
total beside the counts of its values. `Statistics.Tallies` says what all of these numbers should be
for some counted issues, by counting occurrences, and `Statistics.tallies_addAll` that they are so,
in whatever order the issues were counted.

Each number is one to which the counted issues add (`Statistics.Adds`). That the total of a metric
is the sum of its counts follows from that: the total counts all occurrences, and the listed values
are those that occur, each listed once (`total_count`).
-/

namespace IssueNotice

/-- Where some keys, each once, are all that occurs in a list, their counts make up its length. -/
theorem total_count {α : Type} [DecidableEq α] {keys xs : List α} (hnodup : keys.Nodup)
    (h : ∀ x ∈ xs, x ∈ keys) : total (keys.map fun k => xs.count k) = xs.length := by
  induction xs with
  | nil =>
    refine total_eq_zero fun n hn => ?_
    obtain ⟨k, -, rfl⟩ := List.mem_map.mp hn
    rfl
  | cons x rest ih =>
    have hone : total (keys.map fun k => if x == k then 1 else 0) = 1 := by
      rw [total_map_ite, ← List.count_eq_one_of_mem hnodup (h x List.mem_cons_self), List.count]
      exact List.countP_congr fun k _ => by rw [beq_iff_eq, beq_iff_eq, eq_comm]
    simp only [List.count_cons, total_map_add, hone, List.length_cons]
    rw [ih fun y hy => h y (List.mem_cons_of_mem x hy)]

/-! ## What the numbers should be -/

/-- How often an issue has a value under a metric: once for its rule type, its component, its rule
and its assignee, and under the tags once for each time that the value is among them. -/
def Metric.occurrences (m : Metric) (v : String) (i : Issue) : Nat :=
  match m with
  | ruleType => if i.type.word = v then 1 else 0
  | tag => i.tags.count v
  | component => if i.component = v then 1 else 0
  | assignee => if i.assignee = some v then 1 else 0
  | rule => if i.ruleKey = v then 1 else 0

/-- A sum over the issues counted on the leak period, and one over those counted off it. -/
def LeakCount.ofShares (pairs : List (Issue × Bool)) (share : Issue → Nat) : LeakCount where
  onLeak := IssueNotice.total ((onSide true pairs).map share)
  offLeak := IssueNotice.total ((onSide false pairs).map share)

/-- The statistics are those of some issues, each with whether it is counted as being on the leak
period. -/
structure Statistics.Tallies (s : Statistics) (pairs : List (Issue × Bool)) : Prop where
  /-- A value is not listed iff no issue has it. -/
  absent : ∀ m v, (s.distribution m).get? v = none ↔ ∀ p ∈ pairs, m.occurrences v p.1 = 0
  /-- The count of a listed value is the number of its occurrences. -/
  counts : ∀ m v c, (s.distribution m).get? v = some c → c = .ofShares pairs (m.occurrences v)
  /-- The total of a metric is the sum of the counts of its values. -/
  totals : ∀ m, (s.distribution m).total = .sum ((s.distribution m).toList.map Prod.snd)
  /-- Under these metrics each issue is counted once. -/
  once : ∀ m ∈ [Metric.ruleType, .component, .rule],
    (s.distribution m).total = .ofShares pairs (fun _ => 1) ∧
      (s.distribution m).total.total = pairs.length
  /-- Assigned issues are counted once by assignee, the others are not. -/
  assigned : (s.distribution .assignee).total.total = pairs.countP fun p => p.1.assignee.isSome
  /-- An issue without an effort needs none. -/
  effort : s.effort = .ofShares pairs fun i => i.effort.getD 0
  hasOnLeak : s.hasOnLeak = true ↔ ∃ p ∈ pairs, p.2 = true

/-! ## What they are -/

theorem Metric.count_values (m : Metric) (v : String) (i : Issue) :
    (m.values i).count v = m.occurrences v i := by
  cases m with
  | tag => rfl
  | assignee => cases h : i.assignee <;> simp [values, occurrences, h, List.count_singleton]
  | ruleType | component | rule => simp [values, occurrences, List.count_singleton]

theorem LeakCount.part_ofShares (pairs : List (Issue × Bool)) (share : Issue → Nat) (b : Bool) :
    (ofShares pairs share).part b = IssueNotice.total ((onSide b pairs).map share) := by
  cases b <;> rfl

/-- Both sides together are all issues. -/
theorem LeakCount.total_ofShares (pairs : List (Issue × Bool)) (share : Issue → Nat) :
    (ofShares pairs share).total = IssueNotice.total (pairs.map fun p => share p.1) := by
  unfold ofShares LeakCount.total
  induction pairs with
  | nil => rfl
  | cons p rest ih =>
    rw [List.map_cons, total_cons, ← ih]
    cases hp : p.2 <;> simp [onSide_cons, hp] <;> omega

namespace Statistics

variable (pairs : List (Issue × Bool)) (m : Metric)

theorem total_distribution_addAll : ((({} : Statistics).addAll pairs).distribution m).total =
    .ofShares pairs fun i => (m.values i).length :=
  LeakCount.ext_part fun b => by rw [LeakCount.part_ofShares, (adds_total m b).addAll]

theorem get?_eq_none_iff {m : Metric} {v : String} :
    ((({} : Statistics).addAll pairs).distribution m).get? v = none ↔
      ∀ p ∈ pairs, m.occurrences v p.1 = 0 := by
  unfold Distribution.get?
  rw [← Option.not_isSome_iff_eq_none, ← Std.ExtTreeMap.mem_iff_isSome_getElem?, mem_byValue_addAll]
  simp only [not_exists, not_and, ← Metric.count_values, List.count_eq_zero]

theorem countOf_distribution_addAll (v : String) :
    ((({} : Statistics).addAll pairs).distribution m).countOf v =
      .ofShares pairs (m.occurrences v) :=
  LeakCount.ext_part fun b => by
    rw [LeakCount.part_ofShares, (adds_countOf m b v).addAll]
    simp only [Metric.count_values]

/-- **The total of a metric never differs from the sum of its counts.** -/
theorem total_eq_sum : ((({} : Statistics).addAll pairs).distribution m).total =
    .sum (((({} : Statistics).addAll pairs).distribution m).toList.map Prod.snd) := by
  refine LeakCount.ext_part fun b => ?_
  let d := (({} : Statistics).addAll pairs).distribution m
  let found := (onSide b pairs).flatMap m.values
  have hcounts : d.toList.map (fun e => e.2.part b) =
      (d.toList.map Prod.fst).map fun v => found.count v := by
    rw [List.map_map]
    refine List.map_congr_left fun e he => ?_
    have hget : d.get? e.1 = some e.2 := Std.ExtTreeMap.mem_toList_iff_getElem?_eq_some.mp he
    rw [← Distribution.countOf_of_get? hget]
    exact part_countOf_addAll pairs b m e.1
  have hlisted : ∀ v ∈ found, v ∈ d.toList.map Prod.fst := by
    intro v hv
    obtain ⟨i, hi, hv⟩ := List.mem_flatMap.mp hv
    obtain ⟨p, hp, rfl⟩ := List.mem_map.mp hi
    exact Keyed.mem_keys.mpr (mem_byValue_addAll.mpr ⟨p, List.mem_of_mem_filter hp, hv⟩)
  have hnodup : (d.toList.map Prod.fst).Nodup := nodup_of_ordered d.byValue.ordered_keys
  change d.total.part b = (LeakCount.sum (d.toList.map Prod.snd)).part b
  rw [LeakCount.part_sum, List.map_map]
  refine (part_total_addAll pairs b m).trans ?_
  rw [← total_count hnodup hlisted, ← hcounts]
  rfl

end Statistics

/-- **Statistics equal their reference count**, and the order in which issues were counted does not
matter. -/
theorem Statistics.tallies_addAll {pairs reordered : List (Issue × Bool)}
    (h : reordered.Perm pairs) :
    (({} : Statistics).addAll pairs).Tallies pairs ∧
      ({} : Statistics).addAll reordered = ({} : Statistics).addAll pairs := by
  refine ⟨?_, addAll_perm h {}⟩
  exact {
    absent := fun _ _ => get?_eq_none_iff pairs
    counts := fun m v c hc => by
      rw [← Distribution.countOf_of_get? hc, countOf_distribution_addAll]
    totals := total_eq_sum pairs
    once := fun m hm => by
      have hlength : ∀ i, (m.values i).length = 1 := by
        intro i
        simp only [List.mem_cons, List.not_mem_nil, or_false] at hm
        rcases hm with rfl | rfl | rfl <;> rfl
      rw [total_distribution_addAll]
      simp only [hlength]
      exact ⟨trivial, (LeakCount.total_ofShares pairs _).trans (total_map_one pairs)⟩
    assigned := by
      have hlength : ∀ i, (Metric.assignee.values i).length =
          if i.assignee.isSome then 1 else 0 := by
        intro i
        unfold Metric.values
        cases i.assignee <;> rfl
      rw [total_distribution_addAll, LeakCount.total_ofShares]
      simp only [hlength]
      exact total_map_ite _ pairs
    effort := LeakCount.ext_part fun b => by
      rw [LeakCount.part_ofShares, (adds_effort b).addAll]
    hasOnLeak := hasOnLeak_addAll pairs }

/-- An issue on the leak period that has a tag twice, and one off it that nobody is assigned to. -/
def sampleCounted : List (Issue × Bool) :=
  [ ({ key := "new", ruleKey := "naming", type := .bug, component := "app",
       created := { day := 1, second := 60, nano := 5 }, assignee := some "ada",
       effort := some 10, tags := ["cwe", "cwe"] }, true),
    ({ key := "old", ruleKey := "naming", type := .codeSmell, component := "app",
       created := { day := 0, second := 60, nano := 5 }, tags := ["cwe"] }, false) ]

theorem tallies_sample :
    let s := ({} : Statistics).addAll sampleCounted
    sampleCounted.reverse.Perm sampleCounted ∧ s.Tallies sampleCounted ∧
      ({} : Statistics).addAll sampleCounted.reverse = s ∧
      (s.distribution .tag).get? "cwe" = some ⟨2, 1⟩ ∧ s.effort = ⟨10, 0⟩ := by
  intro s
  have hperm : sampleCounted.reverse.Perm sampleCounted := List.reverse_perm _
  obtain ⟨htallies, hreordered⟩ := Statistics.tallies_addAll hperm
  refine ⟨hperm, htallies, hreordered, ?_, htallies.effort⟩
  cases hc : (s.distribution .tag).get? "cwe" with
  | none => exact absurd ((htallies.absent .tag "cwe").mp hc) (by decide)
  | some c => exact congrArg some (htallies.counts .tag "cwe" c hc)

end IssueNotice
