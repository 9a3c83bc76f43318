import IssueNotice.Text.Keyed
import Mathlib.Data.List.Induction

/-!
# Maps filled entry by entry

Laws of maps from texts. `Keyed.getElem?_ofEntries` says what a map of a list of entries holds:
under each key the value of the last entry with that key. Rows that are filed under a key of their
own (`Keyed.getElem?_ofRows`) are found in the same way.
-/

namespace IssueNotice

theorem compare_lt_iff {a b : String} : compare a b = .lt ↔ a < b :=
  compareOfLessAndEq_eq_lt

/-- Texts in order come each once. -/
theorem nodup_of_ordered {texts : List String} (h : texts.Pairwise (· < ·)) : texts.Nodup := by
  refine h.imp ?_
  rintro text _ hlt rfl
  exact String.lt_irrefl text hlt

namespace Keyed

variable {α β : Type}

/-- Updates under two keys commute, if they do so wherever the keys are the same. -/
theorem alter_comm (m : Keyed β) {k l : String} {f g : Option β → Option β}
    (h : k = l → ∀ o, f (g o) = g (f o)) : (m.alter k f).alter l g = (m.alter l g).alter k f := by
  apply Std.ExtTreeMap.ext_getElem?
  intro j
  simp only [Std.ExtTreeMap.getElem?_alter, Std.compare_eq_iff_eq]
  by_cases hl : l = j <;> by_cases hk : k = j
  · subst hl hk
    simp only [if_true]
    exact (h rfl _).symm
  · simp [hl, hk]
  · simp [hl, hk]
  · simp [hl, hk]

theorem ordered_keys (m : Keyed β) : (m.toList.map Prod.fst).Pairwise (· < ·) := by
  rw [List.pairwise_map]
  exact m.ordered_keys_toList.imp compare_lt_iff.mp

theorem mem_keys {m : Keyed β} {k : String} : k ∈ m.toList.map Prod.fst ↔ k ∈ m := by
  rw [Std.ExtTreeMap.mem_iff_isSome_getElem?, Option.isSome_iff_exists, List.mem_map]
  simp only [Prod.exists, exists_and_right, exists_eq_right,
    Std.ExtTreeMap.mem_toList_iff_getElem?_eq_some]

/-- **Of several entries with one key the last counts.** -/
theorem getElem?_ofEntries (entries : List (String × β)) (k : String) :
    (ofEntries entries)[k]? = (entries.filter fun e => e.1 == k).getLast?.map Prod.snd := by
  unfold ofEntries
  induction entries using List.reverseRecOn with
  | nil => rfl
  | append_singleton entries e ih =>
    rw [List.foldl_append, List.foldl_cons, List.foldl_nil, Std.ExtTreeMap.getElem?_insert, ih,
      List.filter_append]
    by_cases h : e.1 = k
    · simp [h]
    · simp [h]

/-- Of several rows filed under one key the last is found. -/
theorem getElem?_ofRows (key : α → String) (value : α → β) (rows : List α) (k : String) :
    (ofEntries (rows.map fun a => (key a, value a)))[k]? =
      (rows.filter fun a => key a == k).getLast?.map value := by
  rw [getElem?_ofEntries, List.filter_map, List.getLast?_map, Option.map_map]
  rfl

end Keyed

end IssueNotice
