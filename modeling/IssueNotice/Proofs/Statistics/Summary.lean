import IssueNotice.Proofs.Statistics
import IssueNotice.Total

/-!
# What statistics count

`Statistics.Summarises` says of statistics which issues they are about: their numbers are the counts
and sums over two lists of issues, those on the leak period and those off it. Every number in
statistics is a sum over the issues counted so far (`Statistics.Adds.addAll`), so statistics that
counted some issues summarise them (`Statistics.summarises_addAll`).

Some issues are those of each of their assignees and the unassigned ones (`perm_ofAssignee`), so
that a sum over issues is one over assignees (`total_ofAssignee`).
-/

namespace IssueNotice

/-- Minutes needed to resolve some issues; an issue without an effort needs none. -/
def totalEffort (issues : List Issue) : Nat := total (issues.map fun i => i.effort.getD 0)

/-- Those of some issues that are assigned to a user. -/
def ofAssignee (uuid : String) (issues : List Issue) : List Issue :=
  issues.filter fun i => i.assignee == some uuid

/-- The statistics are those of some issues on the leak period and some others off it. -/
structure Statistics.Summarises (s : Statistics) (leaked others : List Issue) : Prop where
  countOnLeak : s.countOnLeak = leaked.length
  effort : s.effort = ⟨totalEffort leaked, totalEffort others⟩
  /-- Under each metric, an issue is counted once for each of its values. -/
  sums : ∀ m : Metric, (s.distribution m).total =
    ⟨(leaked.flatMap m.values).length, (others.flatMap m.values).length⟩
  /-- A value is counted as often as the issues have it, and is listed iff one of them does. -/
  counts : ∀ (m : Metric) (v : String), (s.distribution m).get? v =
    if v ∈ (leaked ++ others).flatMap m.values then
      some ⟨(leaked.flatMap m.values).count v, (others.flatMap m.values).count v⟩
    else none

/-! ## The issues of some assignees and the others -/

/-- Issues that nobody is assigned to. -/
def unassigned (issues : List Issue) : List Issue := issues.filter fun i => i.assignee.isNone

/-- **Issues are those of their assignees, taken one after the other, and the unassigned ones.** -/
theorem perm_ofAssignee {uuids : List String} (hnodup : uuids.Nodup) {issues : List Issue}
    (h : ∀ i ∈ issues, ∀ uuid, i.assignee = some uuid → uuid ∈ uuids) :
    (uuids.flatMap (ofAssignee · issues) ++ unassigned issues).Perm issues := by
  induction uuids generalizing issues with
  | nil =>
    have hall : unassigned issues = issues := by
      refine List.filter_eq_self.mpr fun i hi => ?_
      rw [Option.isNone_iff_eq_none, Option.eq_none_iff_forall_ne_some]
      exact fun uuid ha => absurd (h i hi uuid ha) List.not_mem_nil
    rw [hall]
    exact .refl issues
  | cons uuid rest ih =>
    obtain ⟨hfirst, hrest⟩ := List.nodup_cons.mp hnodup
    let others := issues.filter fun i => !(i.assignee == some uuid)
    have hothers : (rest.flatMap (ofAssignee · others) ++ unassigned others).Perm others := by
      refine ih hrest fun i hi other ha => ?_
      obtain ⟨hi, hne⟩ := List.mem_filter.mp hi
      refine (List.mem_cons.mp (h i hi other ha)).resolve_left ?_
      rintro rfl
      simp [ha] at hne
    -- the others have the same unassigned issues and the same ones of the other assignees
    have hsame : ∀ other ∈ rest, ofAssignee other others = ofAssignee other issues := by
      intro other ho
      have hne : other ≠ uuid := fun he => hfirst (he ▸ ho)
      unfold ofAssignee others
      rw [List.filter_filter]
      refine List.filter_congr fun i _ => ?_
      by_cases ha : i.assignee = some other <;> simp [ha, hne]
    have hnone : unassigned others = unassigned issues := by
      unfold unassigned others
      rw [List.filter_filter]
      refine List.filter_congr fun i _ => ?_
      cases i.assignee <;> simp
    rw [List.flatMap_congr hsame, hnone] at hothers
    rw [List.flatMap_cons, List.append_assoc]
    exact (hothers.append_left _).trans (List.filter_append_perm _ issues)

/-- A sum over issues is the sum over those of each assignee and the unassigned ones. -/
theorem total_ofAssignee {uuids : List String} (hnodup : uuids.Nodup) {issues : List Issue}
    (h : ∀ i ∈ issues, ∀ uuid, i.assignee = some uuid → uuid ∈ uuids) (share : Issue → Nat) :
    total (uuids.map fun uuid => total ((ofAssignee uuid issues).map share)) +
      total ((unassigned issues).map share) = total (issues.map share) := by
  have hflat : ∀ uuids : List String,
      total ((uuids.flatMap (ofAssignee · issues)).map share) =
        total (uuids.map fun uuid => total ((ofAssignee uuid issues).map share)) := by
    intro uuids
    induction uuids with
    | nil => rfl
    | cons uuid rest ih =>
      rw [List.flatMap_cons, List.map_append, total_append, ih, List.map_cons, total_cons]
  rw [← total_perm ((perm_ofAssignee hnodup h).map share), List.map_append, total_append, hflat]

/-! ## Sums over the counted issues -/

/-- The issues that were counted as being on the leak period, or as being off it. -/
def onSide (onLeak : Bool) (pairs : List (Issue × Bool)) : List Issue :=
  (pairs.filter fun p => p.2 == onLeak).map Prod.fst

theorem onSide_cons (onLeak : Bool) (p : Issue × Bool) (rest : List (Issue × Bool)) :
    onSide onLeak (p :: rest) =
      if p.2 = onLeak then p.1 :: onSide onLeak rest else onSide onLeak rest := by
  unfold onSide
  split
  · next h => rw [List.filter_cons_of_pos (by simp [h]), List.map_cons]
  · next h => rw [List.filter_cons_of_neg (by simp [h])]

theorem mem_onSide_append {pairs : List (Issue × Bool)} {i : Issue} :
    i ∈ onSide true pairs ++ onSide false pairs ↔ ∃ p ∈ pairs, p.1 = i := by
  simp [onSide, or_comm]

/-- Choosing issues and choosing a side commute. -/
theorem onSide_filter (q : Issue → Bool) (onLeak : Bool) (pairs : List (Issue × Bool)) :
    onSide onLeak (pairs.filter fun p => q p.1) = (onSide onLeak pairs).filter q := by
  unfold onSide
  rw [List.filter_filter, List.filter_map, List.filter_filter]
  congr 1
  refine List.filter_congr fun p _ => ?_
  rw [Function.comp_apply, Bool.and_comm]

/-- The own issues of a user, on either side. -/
theorem onSide_ownIssues (onLeak : Bool) (uuid : String) (pairs : List (Issue × Bool)) :
    onSide onLeak (ownIssues uuid pairs) = ofAssignee uuid (onSide onLeak pairs) :=
  onSide_filter (fun i => i.assignee == some uuid) onLeak pairs

namespace LeakCount

/-- One of the two parts. -/
def part (c : LeakCount) (onLeak : Bool) : Nat := if onLeak then c.onLeak else c.offLeak

theorem ext_part {c d : LeakCount} (h : ∀ b, c.part b = d.part b) : c = d := by
  cases c
  cases d
  exact congr (congrArg _ (h true)) (h false)

/-- The sum of some counts, part by part. -/
def sum (counts : List LeakCount) : LeakCount where
  onLeak := IssueNotice.total (counts.map LeakCount.onLeak)
  offLeak := IssueNotice.total (counts.map LeakCount.offLeak)

theorem part_sum (counts : List LeakCount) (b : Bool) :
    (sum counts).part b = IssueNotice.total (counts.map fun c => c.part b) := by
  cases b <;> rfl

theorem part_add (c : LeakCount) (onLeak b : Bool) (n : Nat) :
    (c.add onLeak n).part b = c.part b + if onLeak = b then n else 0 := by
  cases onLeak <;> cases b <;> rfl

end LeakCount

namespace Distribution

variable (d : Distribution) (onLeak b : Bool)

theorem part_total_addAll (values : List String) : (d.addAll onLeak values).total.part b =
    d.total.part b + if onLeak = b then values.length else 0 := by
  unfold addAll
  induction values generalizing d with
  | nil => simp
  | cons v rest ih =>
    rw [List.foldl_cons, ih, increment, LeakCount.part_add, List.length_cons]
    split <;> omega

/-- The count of a value, nothing if it is not listed. -/
def countOf (v : String) : LeakCount := (d.get? v).getD {}

theorem countOf_of_get? {d : Distribution} {v : String} {c : LeakCount} (h : d.get? v = some c) :
    d.countOf v = c := by
  rw [countOf, h, Option.getD_some]

theorem countOf_increment (v w : String) : (d.increment onLeak v).countOf w =
    if v = w then (d.countOf w).add onLeak 1 else d.countOf w := by
  unfold countOf get? increment
  rw [Std.ExtTreeMap.getElem?_alter]
  by_cases h : v = w
  · subst h
    simp
  · simp [h]

theorem part_countOf_addAll (values : List String) (w : String) :
    ((d.addAll onLeak values).countOf w).part b =
      (d.countOf w).part b + if onLeak = b then values.count w else 0 := by
  unfold addAll
  induction values generalizing d with
  | nil => simp
  | cons v rest ih =>
    rw [List.foldl_cons, ih, countOf_increment]
    by_cases h : v = w
    · rw [if_pos h, LeakCount.part_add, h, List.count_cons_self]
      split <;> omega
    · rw [if_neg h, List.count_cons_of_ne h]

end Distribution

namespace Statistics

/-- A number in statistics that starts at nothing, and to which each issue that is counted on one
side adds its share. -/
structure Adds (number : Statistics → Nat) (b : Bool) (share : Issue → Nat) : Prop where
  start : number {} = 0
  step : ∀ s i onLeak, number (add s i onLeak) = number s + if onLeak = b then share i else 0

/-- **A number to which each counted issue adds is a sum over the issues of one side.** -/
theorem Adds.addAll {number : Statistics → Nat} {b : Bool} {share : Issue → Nat}
    (h : Adds number b share) (pairs : List (Issue × Bool)) :
    number (({} : Statistics).addAll pairs) = total ((onSide b pairs).map share) := by
  have hfrom : ∀ s : Statistics,
      number (s.addAll pairs) = number s + total ((onSide b pairs).map share) := by
    unfold Statistics.addAll
    induction pairs with
    | nil => exact fun _ => rfl
    | cons p rest ih =>
      intro s
      rw [List.foldl_cons, ih, h.step, onSide_cons]
      split
      · rw [List.map_cons, total_cons, Nat.add_assoc]
      · rfl
  rw [hfrom, h.start, Nat.zero_add]

section Numbers

variable (m : Metric) (b : Bool)

theorem adds_effort : Adds (fun s => s.effort.part b) b fun i => i.effort.getD 0 where
  start := by cases b <;> rfl
  step _ _ _ := LeakCount.part_add _ _ _ _

theorem adds_total :
    Adds (fun s => (s.distribution m).total.part b) b fun i => (m.values i).length where
  start := by cases b <;> cases m <;> rfl
  step s i onLeak := by
    unfold distribution add
    rw [PerMetric.get_ofFn]
    exact Distribution.part_total_addAll _ _ _ _

theorem adds_countOf (v : String) :
    Adds (fun s => ((s.distribution m).countOf v).part b) b fun i => (m.values i).count v where
  start := by cases b <;> cases m <;> rfl
  step s i onLeak := by
    unfold distribution add
    rw [PerMetric.get_ofFn]
    exact Distribution.part_countOf_addAll _ _ _ _ _

end Numbers

variable (pairs : List (Issue × Bool)) (b : Bool) (m : Metric)

theorem part_effort_addAll :
    (({} : Statistics).addAll pairs).effort.part b = totalEffort (onSide b pairs) :=
  (adds_effort b).addAll pairs

theorem part_total_addAll : ((({} : Statistics).addAll pairs).distribution m).total.part b =
    ((onSide b pairs).flatMap m.values).length := by
  rw [(adds_total m b).addAll pairs, List.length_flatMap]
  rfl

theorem part_countOf_addAll (v : String) :
    (((({} : Statistics).addAll pairs).distribution m).countOf v).part b =
      ((onSide b pairs).flatMap m.values).count v := by
  rw [(adds_countOf m b v).addAll pairs, List.count_flatMap]
  rfl

/-- **Statistics that counted some issues summarise them.** -/
theorem summarises_addAll :
    (({} : Statistics).addAll pairs).Summarises (onSide true pairs) (onSide false pairs) where
  countOnLeak := by
    rw [countOnLeak_addAll, onSide, List.length_map, ← List.countP_eq_length_filter]
    simp [countOnLeak, distribution, PerMetric.ofFn, PerMetric.get]
  effort := LeakCount.ext_part fun b => by
    rw [part_effort_addAll]
    cases b <;> rfl
  sums m := LeakCount.ext_part fun b => by
    rw [part_total_addAll]
    cases b <;> rfl
  counts m v := by
    let d := (({} : Statistics).addAll pairs).distribution m
    have hlisted : v ∈ d.byValue ↔
        v ∈ (onSide true pairs ++ onSide false pairs).flatMap m.values := by
      rw [mem_byValue_addAll, List.mem_flatMap]
      simp only [mem_onSide_append]
      constructor
      · rintro ⟨p, hp, hv⟩
        exact ⟨p.1, ⟨p, hp, rfl⟩, hv⟩
      · rintro ⟨i, ⟨p, hp, rfl⟩, hv⟩
        exact ⟨p, hp, hv⟩
    change d.get? v = _
    split
    · next hmem =>
      obtain ⟨c, hc⟩ := Option.isSome_iff_exists.mp
        (Std.ExtTreeMap.mem_iff_isSome_getElem?.mp (hlisted.mpr hmem))
      rw [Distribution.get?, hc, Option.some.injEq, ← Distribution.countOf_of_get? hc]
      refine LeakCount.ext_part fun b => ?_
      rw [part_countOf_addAll]
      cases b <;> rfl
    · next hmem =>
      exact Std.ExtTreeMap.getElem?_eq_none fun h => hmem (hlisted.mp h)

end Statistics

end IssueNotice
