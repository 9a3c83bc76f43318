import IssueNotice.Proofs.Statistics.Counts
import Mathlib.Data.List.Sort

/-!
# The values with the most issues on the leak period

`Distribution.topOnLeak` sorts the values that have issues on the leak period by their counts alone.
`Distribution.IsTop` says which of them come first and in which order: higher counts before lower
ones, and equal counts in the order of the values.

The order among equal counts is not in the comparison. It comes from the sort being stable, that is,
from its leaving the values of any one count as they were (`filter_mergeSort`), and they were in
order, since a distribution lists its values so. Together the sorted values are strictly ordered
(`Distribution.ordered_ranked`), and cutting off an ordered list gives its top, for every limit
(`Distribution.isTop_topOnLeak`).
-/

namespace IssueNotice

/-! ## Sorting by a number -/

section HighestFirst

variable {α : Type} (number : α → Nat)

/-- The comparison that puts the highest number first, and nothing else into an order. -/
def highestFirst (a b : α) : Bool := number b ≤ number a

theorem highestFirst_trans (a b c : α) (hab : highestFirst number a b = true)
    (hbc : highestFirst number b c = true) : highestFirst number a c = true :=
  decide_eq_true (Nat.le_trans (of_decide_eq_true hbc) (of_decide_eq_true hab))

theorem highestFirst_total (a b : α) :
    (highestFirst number a b || highestFirst number b a) = true := by
  unfold highestFirst
  rw [Bool.or_eq_true, decide_eq_true_eq, decide_eq_true_eq]
  exact Nat.le_total _ _

/-- Of two in the sorted list, the first has no lower number. -/
theorem le_of_sublist_mergeSort {xs : List α} {a b : α}
    (h : [a, b].Sublist (xs.mergeSort (highestFirst number))) : number b ≤ number a := by
  have hsorted := List.pairwise_mergeSort (highestFirst_trans number) (highestFirst_total number) xs
  exact of_decide_eq_true (List.pairwise_iff_forall_sublist.mp hsorted h)

/-- **A sort by a number leaves those with one number as they were.** -/
theorem filter_mergeSort (xs : List α) (n : Nat) :
    (xs.mergeSort (highestFirst number)).filter (number · == n) = xs.filter (number · == n) := by
  have hties : (xs.filter (number · == n)).Pairwise fun a b => highestFirst number a b = true := by
    refine List.pairwise_of_forall_mem_list fun a ha b hb => decide_eq_true ?_
    rw [List.mem_filter, beq_iff_eq] at ha hb
    rw [ha.2, hb.2]
  -- they are within the sorted list in their old order, and they are all that is found there
  have hsub : (xs.filter (number · == n)).Sublist
      ((xs.mergeSort (highestFirst number)).filter (number · == n)) := by
    have h := List.sublist_mergeSort (highestFirst_trans number) (highestFirst_total number) hties
      List.filter_sublist
    have hagain := h.filter (number · == n)
    simp only [List.filter_filter, Bool.and_self] at hagain
    exact hagain
  have hlength := ((List.mergeSort_perm xs (highestFirst number)).filter (number · == n)).length_eq
  exact (hsub.eq_of_length hlength.symm).symm

end HighestFirst

/-! ## The top of a distribution -/

namespace Distribution

/-- Before another one in the top: with a higher count, or with an equal one and an earlier
value. -/
def Outranks (a b : String × Nat) : Prop := b.2 < a.2 ∨ b.2 = a.2 ∧ a.1 < b.1

/-- The list is the top of a distribution, up to a limit. -/
structure IsTop (d : Distribution) (limit : Nat) (top : List (String × Nat)) : Prop where
  /-- It is as long as the limit, or as there are values with issues on the leak period. -/
  length : top.length = min limit (d.toList.countP fun e => 0 < e.2.onLeak)
  counts : ∀ e ∈ top, 0 < e.2 ∧ (d.get? e.1).map LeakCount.onLeak = some e.2
  /-- Each value is there once. -/
  nodup : (top.map Prod.fst).Nodup
  ordered : top.Pairwise Outranks
  /-- What is left out comes after all that is listed. -/
  rest : ∀ v c, d.get? v = some c → 0 < c.onLeak → v ∉ top.map Prod.fst →
    ∀ e ∈ top, Outranks e (v, c.onLeak)

variable (d : Distribution)

/-- The values with issues on the leak period and their counts, in the order of the values. -/
def leaked : List (String × Nat) :=
  d.toList.filterMap fun e => if 0 < e.2.onLeak then some (e.1, e.2.onLeak) else none

/-- The same by their counts, highest first. -/
def ranked : List (String × Nat) := d.leaked.mergeSort (highestFirst Prod.snd)

theorem topOnLeak_eq (limit : Nat) : d.topOnLeak limit = d.ranked.take limit := rfl

variable {d}

theorem mem_leaked {e : String × Nat} :
    e ∈ d.leaked ↔ ∃ c, d.get? e.1 = some c ∧ 0 < c.onLeak ∧ c.onLeak = e.2 := by
  unfold leaked get? toList
  rw [List.mem_filterMap]
  constructor
  · rintro ⟨⟨v, c⟩, hmem, he⟩
    obtain ⟨hpos, he⟩ := Option.ite_none_right_eq_some.mp he
    obtain rfl := Option.some.inj he
    exact ⟨c, Std.ExtTreeMap.mem_toList_iff_getElem?_eq_some.mp hmem, hpos, rfl⟩
  · rintro ⟨c, hget, hpos, hc⟩
    refine ⟨(e.1, c), Std.ExtTreeMap.mem_toList_iff_getElem?_eq_some.mpr hget, ?_⟩
    exact (if_pos hpos).trans (by rw [hc])

theorem mem_ranked {e : String × Nat} : e ∈ d.ranked ↔ e ∈ d.leaked :=
  (List.mergeSort_perm _ _).mem_iff

variable (d)

theorem length_ranked : d.ranked.length = d.toList.countP fun e => 0 < e.2.onLeak := by
  unfold ranked leaked
  rw [List.length_mergeSort, List.length_filterMap_eq_countP]
  refine List.countP_congr fun e _ => ?_
  by_cases h : 0 < e.2.onLeak <;> simp [h]

theorem ordered_leaked : d.leaked.Pairwise fun a b => a.1 < b.1 := by
  have hkeys : d.toList.Pairwise fun a b => a.1 < b.1 :=
    List.pairwise_map.mp d.byValue.ordered_keys
  refine List.Pairwise.filterMap _ (fun e f hlt a ha b hb => ?_) hkeys
  obtain rfl := Option.some.inj (Option.ite_none_right_eq_some.mp ha).2
  obtain rfl := Option.some.inj (Option.ite_none_right_eq_some.mp hb).2
  exact hlt

/-- **The values are ordered by count first and value second.** -/
theorem ordered_ranked : d.ranked.Pairwise Outranks := by
  rw [List.pairwise_iff_forall_sublist]
  intro a b hsub
  rcases Nat.lt_or_eq_of_le (le_of_sublist_mergeSort Prod.snd hsub) with hlt | heq
  · exact .inl hlt
  -- of one count, the two are as they were before the sort
  · refine .inr ⟨heq, List.pairwise_iff_forall_sublist.mp d.ordered_leaked ?_⟩
    have hties := hsub.filter (·.2 == a.2)
    rw [ranked, filter_mergeSort Prod.snd] at hties
    simp only [List.filter_cons, heq, beq_self_eq_true, if_true, List.filter_nil] at hties
    exact hties.trans List.filter_sublist

/-- **What `topOnLeak` lists is the top**, for every limit. -/
theorem isTop_topOnLeak (limit : Nat) : d.IsTop limit (d.topOnLeak limit) where
  length := by rw [topOnLeak_eq, List.length_take, length_ranked]
  counts e he := by
    obtain ⟨c, hget, hpos, hc⟩ := mem_leaked.mp (mem_ranked.mp (List.mem_of_mem_take he))
    rw [hget, Option.map_some, hc]
    exact ⟨hc ▸ hpos, rfl⟩
  nodup := by
    have hleaked : (d.leaked.map Prod.fst).Nodup :=
      nodup_of_ordered (List.pairwise_map.mpr d.ordered_leaked)
    have hranked : (d.ranked.map Prod.fst).Nodup :=
      ((List.mergeSort_perm _ _).map Prod.fst).nodup_iff.mpr hleaked
    exact hranked.sublist ((List.take_sublist limit _).map Prod.fst)
  ordered := d.ordered_ranked.take
  rest v c hget hpos hout e he := by
    have hmem : (v, c.onLeak) ∈ d.ranked :=
      mem_ranked.mpr (mem_leaked.mpr ⟨c, hget, hpos, rfl⟩)
    have hordered := d.ordered_ranked
    rw [← List.take_append_drop limit d.ranked] at hmem hordered
    rcases List.mem_append.mp hmem with hin | hdropped
    · exact absurd (List.mem_map_of_mem hin) hout
    · exact (List.pairwise_append.mp hordered).2.2 e he _ hdropped

end Distribution

/-- **The top of counted issues.** Under every metric and for every limit, what `topOnLeak` lists is
the top; a higher limit only adds to it, and the order in which the issues were counted does not
matter. -/
theorem Statistics.topOnLeak_addAll {pairs reordered : List (Issue × Bool)}
    (h : reordered.Perm pairs) (m : Metric) (limit : Nat) :
    let d := (({} : Statistics).addAll pairs).distribution m
    d.IsTop limit (d.topOnLeak limit) ∧ d.topOnLeak limit <+: d.topOnLeak (limit + 1) ∧
      ((({} : Statistics).addAll reordered).distribution m).topOnLeak limit =
        d.topOnLeak limit := by
  intro d
  refine ⟨d.isTop_topOnLeak limit, List.take_prefix_take_left (Nat.le_succ limit), ?_⟩
  rw [addAll_perm h]

/-- The issues of `sampleCounted`, and the same with other tags. -/
def sampleTagged : List (Issue × Bool) :=
  sampleCounted ++ sampleCounted.map fun (i, onLeak) =>
    ({ i with tags := ["xss", "xss", "sql", "sql", "sql"] }, onLeak)

theorem topOnLeak_sample :
    let d := (({} : Statistics).addAll sampleTagged).distribution .tag
    sampleTagged.reverse.Perm sampleTagged ∧ d.IsTop 2 (d.topOnLeak 2) ∧
      d.topOnLeak 2 <+: d.topOnLeak 3 ∧
      ((({} : Statistics).addAll sampleTagged.reverse).distribution .tag).topOnLeak 2 =
        d.topOnLeak 2 ∧
      d.topOnLeak 2 = [("sql", 3), ("cwe", 2)] := by
  intro d
  have hperm : sampleTagged.reverse.Perm sampleTagged := List.reverse_perm _
  obtain ⟨htop, hprefix, hreordered⟩ := Statistics.topOnLeak_addAll hperm .tag 2
  have hleaked : d.leaked = [("cwe", 2), ("sql", 3), ("xss", 2)] := by decide +kernel
  refine ⟨hperm, htop, hprefix, hreordered, ?_⟩
  rw [Distribution.topOnLeak_eq, Distribution.ranked, hleaked]
  simp [List.mergeSort, highestFirst, List.MergeSort.Internal.splitInTwo]

end IssueNotice
