import IssueNotice.Proofs.Statistics.Counts

/-!
# The statistics of the assignees

A rollup keeps the statistics of all new issues and those of each assignee side by side.
`Rollup.Partitions` says how the two fit together for some counted issues, and
`Rollup.partitions_addAll` that they always do: each assignee has the statistics of their own
issues, and every number of the whole is the sum over the assignees and the issues that nobody is
assigned to.

Every such number is one to which the counted issues add, so that one lemma
(`Statistics.Adds.parts`) splits them all: a sum over issues is a sum over those of each assignee
and the unassigned ones.
-/

namespace IssueNotice

/-! ## How the whole and the parts should fit -/

/-- Those of some counted issues that nobody is assigned to. -/
def ownerless (pairs : List (Issue × Bool)) : List (Issue × Bool) :=
  pairs.filter fun p => p.1.assignee.isNone

/-- The statistics of each assignee, and behind them those of the issues that nobody is assigned
to. -/
def Rollup.parts (r : Rollup) (pairs : List (Issue × Bool)) : List Statistics :=
  r.byAssignee.toList.map Prod.snd ++ [({} : Statistics).addAll (ownerless pairs)]

/-- The statistics of the assignees are the parts of those of all issues. -/
structure Rollup.Partitions (r : Rollup) (pairs : List (Issue × Bool)) : Prop where
  /-- There are statistics of an assignee iff an issue is assigned to them, and they are those of
  the issues assigned to them, in order. -/
  own : ∀ uuid, r.byAssignee[uuid]? =
    if ∃ p ∈ pairs, p.1.assignee = some uuid then
      some (({} : Statistics).addAll (ownIssues uuid pairs))
    else none
  /-- Just these assignees are listed under their metric, each with the number of their issues. -/
  assignees : ∀ uuid, (r.overall.distribution .assignee).get? uuid =
    r.byAssignee[uuid]?.map fun s => (s.distribution .ruleType).total
  /-- A value is listed iff it is in one of the parts. -/
  listed : ∀ m v, (r.overall.distribution m).get? v = none ↔
    ∀ s ∈ r.parts pairs, (s.distribution m).get? v = none
  counts : ∀ m v, (r.overall.distribution m).countOf v =
    .sum ((r.parts pairs).map fun s => (s.distribution m).countOf v)
  totals : ∀ m, (r.overall.distribution m).total =
    .sum ((r.parts pairs).map fun s => (s.distribution m).total)
  effort : r.overall.effort = .sum ((r.parts pairs).map Statistics.effort)
  /-- The assignees with an issue on the leak period are listed in the order of their uuids, -/
  ordered : (r.assigneesOnLeak.map Prod.fst).Pairwise (· < ·)
  /-- each with their own statistics, -/
  onLeak : ∀ uuid s, (uuid, s) ∈ r.assigneesOnLeak ↔
    r.byAssignee[uuid]? = some s ∧ ∃ p ∈ pairs, p.1.assignee = some uuid ∧ p.2 = true
  /-- and only if there is an issue on the leak period at all. -/
  gate : r.assigneesOnLeak ≠ [] → r.overall.hasOnLeak = true

/-! ## How they fit -/

theorem onSide_ownerless (onLeak : Bool) (pairs : List (Issue × Bool)) :
    onSide onLeak (ownerless pairs) = unassigned (onSide onLeak pairs) :=
  onSide_filter (fun i => i.assignee.isNone) onLeak pairs

variable (pairs : List (Issue × Bool))

theorem ownIssues_eq_nil {uuid : String} :
    ownIssues uuid pairs = [] ↔ ¬ ∃ p ∈ pairs, p.1.assignee = some uuid := by
  rw [List.eq_nil_iff_forall_not_mem]
  simp only [mem_ownIssues, not_and, not_exists]

namespace Rollup

/-- The statistics of an assignee, if there are any. -/
theorem getElem?_byAssignee_addAll (uuid : String) :
    (({} : Rollup).addAll pairs).byAssignee[uuid]? =
      if ∃ p ∈ pairs, p.1.assignee = some uuid then
        some (({} : Statistics).addAll (ownIssues uuid pairs))
      else none := by
  have hempty : ({} : Rollup).byAssignee[uuid]? = none := Std.ExtTreeMap.getElem?_empty
  rw [byAssignee_addAll, hempty, Option.getD_none]
  by_cases h : ∃ p ∈ pairs, p.1.assignee = some uuid
  · rw [if_pos h, if_neg fun hnil => (ownIssues_eq_nil pairs).mp hnil h]
  · rw [if_neg h, if_pos ((ownIssues_eq_nil pairs).mpr h)]

/-- An assignee has the statistics of their own issues. -/
theorem eq_of_mem_byAssignee {e : String × Statistics}
    (h : e ∈ (({} : Rollup).addAll pairs).byAssignee.toList) :
    (∃ p ∈ pairs, p.1.assignee = some e.1) ∧
      e.2 = ({} : Statistics).addAll (ownIssues e.1 pairs) := by
  have hget := Std.ExtTreeMap.mem_toList_iff_getElem?_eq_some.mp h
  rw [getElem?_byAssignee_addAll] at hget
  split at hget
  · next ha => exact ⟨ha, (Option.some.inj hget).symm⟩
  · cases hget

end Rollup

/-- **A number to which each counted issue adds is the sum over the parts.** -/
theorem Statistics.Adds.parts {number : Statistics → Nat} {b : Bool} {share : Issue → Nat}
    (h : Adds number b share) :
    number (({} : Rollup).addAll pairs).overall =
      total (((({} : Rollup).addAll pairs).parts pairs).map number) := by
  let r := ({} : Rollup).addAll pairs
  let uuids := r.byAssignee.toList.map Prod.fst
  have hnodup : uuids.Nodup := nodup_of_ordered r.byAssignee.ordered_keys
  have hcover : ∀ i ∈ onSide b pairs, ∀ uuid, i.assignee = some uuid → uuid ∈ uuids := by
    intro i hi uuid ha
    obtain ⟨p, hp, rfl⟩ := List.mem_map.mp hi
    rw [Keyed.mem_keys, Std.ExtTreeMap.mem_iff_isSome_getElem?, Rollup.getElem?_byAssignee_addAll,
      if_pos ⟨p, List.mem_of_mem_filter hp, ha⟩]
    rfl
  have hown : r.byAssignee.toList.map (fun e => number e.2) =
      uuids.map fun uuid => total ((ofAssignee uuid (onSide b pairs)).map share) := by
    rw [List.map_map]
    refine List.map_congr_left fun e he => ?_
    rw [Function.comp_apply, ← onSide_ownIssues, ← h.addAll,
      (Rollup.eq_of_mem_byAssignee pairs he).2]
  have hrest : number (({} : Statistics).addAll (ownerless pairs)) =
      total ((unassigned (onSide b pairs)).map share) := by
    rw [h.addAll, onSide_ownerless]
  rw [Rollup.overall_addAll, Rollup.parts, List.map_append, total_append, List.map_map]
  change number (({} : Statistics).addAll pairs) =
    total (r.byAssignee.toList.map fun e => number e.2) + (number _ + 0)
  rw [hown, Nat.add_zero, hrest, total_ofAssignee hnodup hcover, h.addAll]

namespace Rollup

/-- The parts are the statistics of the issues of each assignee and of the ownerless ones. -/
theorem mem_parts {s : Statistics} : s ∈ (({} : Rollup).addAll pairs).parts pairs ↔
    (∃ uuid, (∃ p ∈ pairs, p.1.assignee = some uuid) ∧
      s = ({} : Statistics).addAll (ownIssues uuid pairs)) ∨
    s = ({} : Statistics).addAll (ownerless pairs) := by
  rw [parts, List.mem_append, List.mem_singleton, List.mem_map]
  refine or_congr_left ?_
  constructor
  · rintro ⟨e, he, rfl⟩
    exact ⟨e.1, eq_of_mem_byAssignee pairs he⟩
  · rintro ⟨uuid, ha, rfl⟩
    refine ⟨(uuid, ({} : Statistics).addAll (ownIssues uuid pairs)), ?_, rfl⟩
    rw [Std.ExtTreeMap.mem_toList_iff_getElem?_eq_some, getElem?_byAssignee_addAll, if_pos ha]

/-- A value is listed for all issues iff it is listed in one of the parts. -/
theorem get?_overall_eq_none_iff {m : Metric} {v : String} :
    ((({} : Rollup).addAll pairs).overall.distribution m).get? v = none ↔
      ∀ s ∈ (({} : Rollup).addAll pairs).parts pairs, (s.distribution m).get? v = none := by
  have hoverall := Statistics.get?_eq_none_iff pairs (m := m) (v := v)
  rw [overall_addAll]
  refine hoverall.trans ⟨fun h s hs => ?_, fun h p hp => ?_⟩
  · rcases (mem_parts pairs).mp hs with ⟨uuid, -, rfl⟩ | rfl
    · exact (Statistics.get?_eq_none_iff _).mpr fun p hp => h p (List.mem_of_mem_filter hp)
    · exact (Statistics.get?_eq_none_iff _).mpr fun p hp => h p (List.mem_of_mem_filter hp)
  · -- an issue is in the part of its assignee, or in the last one
    cases ha : p.1.assignee with
    | some uuid =>
      have hpart := h _ ((mem_parts pairs).mpr (.inl ⟨uuid, ⟨p, hp, ha⟩, rfl⟩))
      exact (Statistics.get?_eq_none_iff _).mp hpart p (mem_ownIssues.mpr ⟨hp, ha⟩)
    | none =>
      have hpart := h _ ((mem_parts pairs).mpr (.inr rfl))
      refine (Statistics.get?_eq_none_iff _).mp hpart p (List.mem_filter.mpr ⟨hp, ?_⟩)
      rw [ha, Option.isNone_none]

end Rollup

/-- The occurrences of an assignee are their issues. -/
theorem LeakCount.ofShares_assignee (uuid : String) :
    ofShares pairs (Metric.assignee.occurrences uuid) =
      ofShares (ownIssues uuid pairs) fun _ => 1 := by
  refine ext_part fun b => ?_
  rw [part_ofShares, part_ofShares, total_map_one, onSide_ownIssues, ofAssignee,
    ← List.countP_eq_length_filter, ← total_map_ite]
  simp only [beq_iff_eq]
  rfl

namespace Rollup

/-- **The assignees are listed under their metric, each with the number of their issues.** -/
theorem get?_assignee (uuid : String) :
    ((({} : Rollup).addAll pairs).overall.distribution .assignee).get? uuid =
      (({} : Rollup).addAll pairs).byAssignee[uuid]?.map
        fun s => (s.distribution .ruleType).total := by
  have hnone : ((({} : Statistics).addAll pairs).distribution .assignee).get? uuid = none ↔
      ¬ ∃ p ∈ pairs, p.1.assignee = some uuid := by
    rw [Statistics.get?_eq_none_iff]
    simp only [Metric.occurrences, ite_eq_right_iff, Nat.one_ne_zero, imp_false, not_exists,
      not_and]
  rw [overall_addAll, getElem?_byAssignee_addAll]
  by_cases h : ∃ p ∈ pairs, p.1.assignee = some uuid
  · obtain ⟨c, hc⟩ := Option.ne_none_iff_exists'.mp fun hget => hnone.mp hget h
    rw [if_pos h, hc, Option.map_some, ← Distribution.countOf_of_get? hc,
      Statistics.countOf_distribution_addAll, LeakCount.ofShares_assignee,
      Statistics.total_distribution_addAll]
    rfl
  · rw [if_neg h, hnone.mpr h]
    rfl

/-- An assignee is listed as having an issue on the leak period iff one was counted so. -/
theorem mem_assigneesOnLeak_iff {uuid : String} {s : Statistics} :
    (uuid, s) ∈ (({} : Rollup).addAll pairs).assigneesOnLeak ↔
      (({} : Rollup).addAll pairs).byAssignee[uuid]? = some s ∧
        ∃ p ∈ pairs, p.1.assignee = some uuid ∧ p.2 = true := by
  rw [mem_assigneesOnLeak_addAll, getElem?_byAssignee_addAll]
  refine and_congr_left ?_
  rintro ⟨p, hp, ha, -⟩
  rw [if_pos ⟨p, hp, ha⟩, Option.some.injEq, eq_comm]

/-- **The statistics of the assignees partition those of all issues.** -/
theorem partitions_addAll : (({} : Rollup).addAll pairs).Partitions pairs where
  own := getElem?_byAssignee_addAll pairs
  assignees := get?_assignee pairs
  listed _ _ := get?_overall_eq_none_iff pairs
  counts m v := LeakCount.ext_part fun b => by
    rw [LeakCount.part_sum, List.map_map]
    exact (Statistics.adds_countOf m b v).parts pairs
  totals m := LeakCount.ext_part fun b => by
    rw [LeakCount.part_sum, List.map_map]
    exact (Statistics.adds_total m b).parts pairs
  effort := LeakCount.ext_part fun b => by
    rw [LeakCount.part_sum, List.map_map]
    exact (Statistics.adds_effort b).parts pairs
  ordered := ordered_owners _
  onLeak _ _ := mem_assigneesOnLeak_iff pairs
  gate h := by
    obtain ⟨⟨uuid, s⟩, he⟩ := List.exists_mem_of_ne_nil _ h
    obtain ⟨-, p, hp, -, hleak⟩ := (mem_assigneesOnLeak_iff pairs).mp he
    rw [overall_addAll]
    exact (Statistics.hasOnLeak_addAll pairs).mpr ⟨p, hp, hleak⟩

end Rollup

end IssueNotice
