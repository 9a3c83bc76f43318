import IssueNotice.Proofs.Keyed
import IssueNotice.Statistics
import Mathlib.Data.List.Perm.Basic

/-!
# Statistics of many issues

`Statistics.addAll` and `Rollup.addAll` count new issues one after the other, each with whether it
is on the leak period.

Results:
* `Statistics.hasOnLeak_addAll`: there is an issue on the leak period iff one was counted so.
* `Rollup.byAssignee_addAll`: the statistics of an assignee are those of their own issues.
* `Rollup.assigneesOnLeak_addAll`: the assignees with an issue on the leak period, in the order of
  their uuids and each once, with the statistics of their own issues.
* `Rollup.addAll_perm`: the order in which issues are counted does not matter. Each update touches a
  sum or one value of a map, so any two of them commute.
-/

namespace IssueNotice

/-! ## Counting one more issue commutes -/

theorem LeakCount.add_comm (c : LeakCount) (a b : Bool) (m n : Nat) :
    (c.add a m).add b n = (c.add b n).add a m := by
  cases a <;> cases b <;> simp [add, Nat.add_right_comm]

theorem Distribution.increment_comm (d : Distribution) (a b : Bool) (v w : String) :
    (d.increment a v).increment b w = (d.increment b w).increment a v := by
  unfold increment
  rw [LeakCount.add_comm, Keyed.alter_comm]
  rintro rfl o
  simp only [Option.getD_some, LeakCount.add_comm]

theorem Distribution.addAll_comm (d : Distribution) (a b : Bool) (vs ws : List String) :
    (d.addAll a vs).addAll b ws = (d.addAll b ws).addAll a vs := by
  unfold addAll
  induction vs generalizing d with
  | nil => rfl
  | cons v vs ih =>
    have hv : (ws.foldl (·.increment b) d).increment a v =
        ws.foldl (·.increment b) (d.increment a v) := by
      clear ih
      induction ws generalizing d with
      | nil => rfl
      | cons w ws ihw => rw [List.foldl_cons, ihw, increment_comm, List.foldl_cons]
    rw [List.foldl_cons, ih, ← hv, List.foldl_cons]

theorem Statistics.add_comm (s : Statistics) (i j : Issue) (a b : Bool) :
    (s.add i a).add j b = (s.add j b).add i a := by
  unfold add
  simp only [distribution, PerMetric.get_ofFn, Distribution.addAll_comm, LeakCount.add_comm]

theorem Rollup.add_comm (r : Rollup) (i j : Issue) (a b : Bool) :
    (r.add i a).add j b = (r.add j b).add i a := by
  unfold add
  simp only [Statistics.add_comm r.overall i j, mk.injEq, true_and]
  cases i.assignee <;> cases j.assignee <;> try rfl
  apply Keyed.alter_comm
  rintro rfl o
  simp only [Option.getD_some, Statistics.add_comm]

/-! ## Counting many issues -/

/-- Counts issues one after the other. -/
def Statistics.addAll (s : Statistics) (pairs : List (Issue × Bool)) : Statistics :=
  pairs.foldl (fun s p => s.add p.1 p.2) s

/-- Counts issues one after the other. -/
def Rollup.addAll (r : Rollup) (pairs : List (Issue × Bool)) : Rollup :=
  pairs.foldl (fun r p => r.add p.1 p.2) r

/-- Those of some counted issues that are assigned to a user. -/
def ownIssues (uuid : String) (pairs : List (Issue × Bool)) : List (Issue × Bool) :=
  pairs.filter fun p => p.1.assignee == some uuid

theorem mem_ownIssues {uuid : String} {pairs : List (Issue × Bool)} {p : Issue × Bool} :
    p ∈ ownIssues uuid pairs ↔ p ∈ pairs ∧ p.1.assignee = some uuid := by
  simp [ownIssues]

theorem Distribution.mem_addAll {d : Distribution} {onLeak : Bool} {values : List String}
    {k : String} : k ∈ (d.addAll onLeak values).byValue ↔ k ∈ d.byValue ∨ k ∈ values := by
  unfold addAll
  induction values generalizing d with
  | nil => simp
  | cons v rest ih =>
    have hv : k ∈ (d.increment onLeak v).byValue ↔ k = v ∨ k ∈ d.byValue := by
      simp only [increment, Std.ExtTreeMap.mem_alter, Std.compare_eq_iff_eq]
      by_cases h : v = k
      · simp [h]
      · simp [h, Ne.symm h]
    rw [List.foldl_cons, ih, hv, List.mem_cons]
    tauto

/-- The values counted under a metric are those of the counted issues. -/
theorem Statistics.mem_distribution_addAll {s : Statistics} {pairs : List (Issue × Bool)}
    {m : Metric} {k : String} : k ∈ ((s.addAll pairs).distribution m).byValue ↔
      k ∈ (s.distribution m).byValue ∨ ∃ p ∈ pairs, k ∈ m.values p.1 := by
  unfold addAll
  induction pairs generalizing s with
  | nil => simp
  | cons p rest ih =>
    rw [List.foldl_cons, ih, distribution, add, PerMetric.get_ofFn, Distribution.mem_addAll]
    simp only [List.mem_cons, exists_eq_or_imp, or_assoc]

/-- A value is listed in statistics iff one of the issues counted there has it. -/
theorem Statistics.mem_byValue_addAll {pairs : List (Issue × Bool)} {m : Metric} {k : String} :
    k ∈ ((({} : Statistics).addAll pairs).distribution m).byValue ↔
      ∃ p ∈ pairs, k ∈ m.values p.1 := by
  have hnone : k ∉ (({} : Statistics).distribution m).byValue := by
    cases m <;> exact Std.ExtTreeMap.not_mem_empty
  rw [mem_distribution_addAll, or_iff_right hnone]

theorem Statistics.addAll_perm {xs ys : List (Issue × Bool)} (h : xs.Perm ys) (s : Statistics) :
    s.addAll xs = s.addAll ys :=
  h.foldl_eq' (fun _ _ _ _ s => add_comm s _ _ _ _) s

/-- **The order in which issues are counted does not matter.** -/
theorem Rollup.addAll_perm {xs ys : List (Issue × Bool)} (h : xs.Perm ys) (r : Rollup) :
    r.addAll xs = r.addAll ys :=
  h.foldl_eq' (fun _ _ _ _ r => add_comm r _ _ _ _) r

namespace Statistics

theorem countOnLeak_add (s : Statistics) (i : Issue) (onLeak : Bool) :
    (s.add i onLeak).countOnLeak = s.countOnLeak + (if onLeak then 1 else 0) := by
  cases onLeak <;> rfl

theorem countOnLeak_addAll (s : Statistics) (pairs : List (Issue × Bool)) :
    (s.addAll pairs).countOnLeak = s.countOnLeak + pairs.countP (·.2) := by
  unfold addAll
  induction pairs generalizing s with
  | nil => rfl
  | cons p rest ih =>
    rw [List.foldl_cons, ih, countOnLeak_add, List.countP_cons]
    omega

/-- **There is an issue on the leak period iff one was counted as such.** -/
theorem hasOnLeak_addAll (pairs : List (Issue × Bool)) :
    (({} : Statistics).addAll pairs).hasOnLeak = true ↔ ∃ p ∈ pairs, p.2 = true := by
  unfold hasOnLeak
  rw [decide_eq_true_eq, countOnLeak_addAll, show ({} : Statistics).countOnLeak = 0 from rfl,
    Nat.zero_add, List.countP_pos_iff]

end Statistics

namespace Rollup

theorem overall_addAll (r : Rollup) (pairs : List (Issue × Bool)) :
    (r.addAll pairs).overall = r.overall.addAll pairs := by
  unfold addAll Statistics.addAll
  induction pairs generalizing r with
  | nil => rfl
  | cons p rest ih => rw [List.foldl_cons, ih, List.foldl_cons, add]

theorem byAssignee_add (r : Rollup) (i : Issue) (onLeak : Bool) (uuid : String) :
    (r.add i onLeak).byAssignee[uuid]? =
      if i.assignee = some uuid then some ((r.byAssignee[uuid]?.getD {}).add i onLeak)
      else r.byAssignee[uuid]? := by
  unfold add
  cases h : i.assignee with
  | none => simp
  | some owner =>
    simp only [Std.ExtTreeMap.getElem?_alter, Std.compare_eq_iff_eq, Option.some.injEq]
    by_cases ho : owner = uuid
    · subst ho
      simp
    · simp [ho]

/-- **The statistics of an assignee are those of their own issues**, if there are any. -/
theorem byAssignee_addAll (r : Rollup) (pairs : List (Issue × Bool)) (uuid : String) :
    (r.addAll pairs).byAssignee[uuid]? =
      if ownIssues uuid pairs = [] then r.byAssignee[uuid]?
      else some ((r.byAssignee[uuid]?.getD {}).addAll (ownIssues uuid pairs)) := by
  unfold addAll
  induction pairs generalizing r with
  | nil => rfl
  | cons p rest ih =>
    rw [List.foldl_cons, ih, byAssignee_add]
    by_cases h : p.1.assignee = some uuid
    · have hown : ownIssues uuid (p :: rest) = p :: ownIssues uuid rest := by
        simp [ownIssues, h]
      rw [hown, if_pos h, if_neg (List.cons_ne_nil _ _)]
      split
      · next hnil => rw [hnil]; rfl
      · rfl
    · have hown : ownIssues uuid (p :: rest) = ownIssues uuid rest := by
        simp [ownIssues, h]
      rw [hown, if_neg h]

theorem mem_assigneesOnLeak {r : Rollup} {uuid : String} {s : Statistics} :
    (uuid, s) ∈ r.assigneesOnLeak ↔ r.byAssignee[uuid]? = some s ∧ s.hasOnLeak = true := by
  unfold assigneesOnLeak
  rw [List.mem_filter, Std.ExtTreeMap.mem_toList_iff_getElem?_eq_some]

/-- The uuids of the assignees with an issue on the leak period. -/
def owners (r : Rollup) : List String := r.assigneesOnLeak.map Prod.fst

/-- The owners come in the order of their uuids, each once. -/
theorem ordered_owners (r : Rollup) : r.owners.Pairwise (· < ·) :=
  r.byAssignee.ordered_keys.sublist (List.filter_sublist.map Prod.fst)

/-- **An assignee with an issue on the leak period comes with the statistics of their own.** -/
theorem mem_assigneesOnLeak_addAll {pairs : List (Issue × Bool)} {uuid : String}
    {s : Statistics} :
    (uuid, s) ∈ (({} : Rollup).addAll pairs).assigneesOnLeak ↔
      s = ({} : Statistics).addAll (ownIssues uuid pairs) ∧
        ∃ p ∈ pairs, p.1.assignee = some uuid ∧ p.2 = true := by
  rw [mem_assigneesOnLeak, byAssignee_addAll]
  have hempty : ({} : Rollup).byAssignee[uuid]? = none := Std.ExtTreeMap.getElem?_empty
  have hleak : (({} : Statistics).addAll (ownIssues uuid pairs)).hasOnLeak = true ↔
      ∃ p ∈ pairs, p.1.assignee = some uuid ∧ p.2 = true := by
    rw [Statistics.hasOnLeak_addAll]
    simp only [mem_ownIssues, and_assoc]
  rw [hempty, ← hleak]
  by_cases h : ownIssues uuid pairs = []
  · rw [if_pos h, h]
    simp only [reduceCtorEq, false_and, false_iff, not_and]
    rintro -
    decide
  · rw [if_neg h, Option.some.injEq, Option.getD_none]
    constructor
    · rintro ⟨rfl, hs⟩
      exact ⟨rfl, hs⟩
    · rintro ⟨rfl, hs⟩
      exact ⟨rfl, hs⟩

theorem mem_owners_addAll {pairs : List (Issue × Bool)} {uuid : String} :
    uuid ∈ (({} : Rollup).addAll pairs).owners ↔
      ∃ p ∈ pairs, p.1.assignee = some uuid ∧ p.2 = true := by
  unfold owners
  rw [List.mem_map]
  constructor
  · rintro ⟨⟨u, s⟩, h, rfl⟩
    exact (mem_assigneesOnLeak_addAll.mp h).2
  · intro h
    exact ⟨(uuid, _), mem_assigneesOnLeak_addAll.mpr ⟨rfl, h⟩, rfl⟩

/-- The owners with their statistics. -/
theorem assigneesOnLeak_addAll (pairs : List (Issue × Bool)) :
    (({} : Rollup).addAll pairs).assigneesOnLeak =
      (({} : Rollup).addAll pairs).owners.map fun uuid =>
        (uuid, ({} : Statistics).addAll (ownIssues uuid pairs)) := by
  unfold owners
  rw [List.map_map]
  conv_lhs => rw [← List.map_id (({} : Rollup).addAll pairs).assigneesOnLeak]
  apply List.map_congr_left
  rintro ⟨uuid, s⟩ h
  rw [(mem_assigneesOnLeak_addAll.mp h).1]
  rfl

end Rollup

end IssueNotice
