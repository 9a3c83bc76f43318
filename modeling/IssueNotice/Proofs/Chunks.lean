import Mathlib.Data.List.Basic
import Mathlib.Data.List.Forall2

/-!
# Chunks of a list

`fullChunks n xs` cuts a list into runs of `n` items for as long as a whole run is left, `leftover`
is what remains, and `chunks` has both: the runs of `n` items and a shorter last one that is never
empty.

Results:
* `flatten_chunks`: put together again, the chunks are the list.
* `length_of_mem_fullChunks`, `length_leftover`, `length_chunks`: all chunks but the last have `n`
  items, the last one the remainder.
* `fullChunks_append`: a run of `n` items in front is a chunk of its own. This is what a batch of
  `n` items sees while items arrive one by one.
* `chunks_eq_append_cons`: the chunk that holds an item is the one after the `j / n` chunks of the
  items in front of it.
-/

namespace IssueNotice

variable {α : Type} {n : Nat}

/-- Runs of `n` items, as long as a whole run is left. -/
def fullChunks (n : Nat) (xs : List α) : List (List α) :=
  if 0 < n ∧ n ≤ xs.length then xs.take n :: fullChunks n (xs.drop n) else []
termination_by xs.length
decreasing_by rw [List.length_drop]; omega

/-- What is behind the full chunks. -/
def leftover (n : Nat) (xs : List α) : List α :=
  if 0 < n ∧ n ≤ xs.length then leftover n (xs.drop n) else xs
termination_by xs.length
decreasing_by rw [List.length_drop]; omega

/-- A list as a chunk, unless it is empty. -/
def lastChunk (xs : List α) : List (List α) :=
  if xs = [] then [] else [xs]

/-- Runs of `n` items, the last one possibly shorter, but not empty. -/
def chunks (n : Nat) (xs : List α) : List (List α) :=
  fullChunks n xs ++ lastChunk (leftover n xs)

/-! ## Full chunks -/

theorem fullChunks_of_lt {xs : List α} (h : xs.length < n) : fullChunks n xs = [] := by
  rw [fullChunks, if_neg (by omega)]

theorem leftover_of_lt {xs : List α} (h : xs.length < n) : leftover n xs = xs := by
  rw [leftover, if_neg (by omega)]

/-- A run of `n` items in front is a chunk. -/
theorem fullChunks_append {xs : List α} (hn : 0 < n) (h : xs.length = n) (ys : List α) :
    fullChunks n (xs ++ ys) = xs :: fullChunks n ys := by
  rw [fullChunks, if_pos ⟨hn, by rw [List.length_append]; omega⟩, ← h, List.take_left,
    List.drop_left]

theorem leftover_append {xs : List α} (hn : 0 < n) (h : xs.length = n) (ys : List α) :
    leftover n (xs ++ ys) = leftover n ys := by
  rw [leftover, if_pos ⟨hn, by rw [List.length_append]; omega⟩, ← h, List.drop_left]

theorem length_of_mem_fullChunks {xs ys : List α} (h : ys ∈ fullChunks n xs) :
    ys.length = n := by
  fun_induction fullChunks n xs with
  | case1 xs hn ih =>
    rcases List.mem_cons.mp h with rfl | h
    · rw [List.length_take]
      omega
    · exact ih h
  | case2 => exact absurd h List.not_mem_nil

theorem length_leftover (hn : 0 < n) (xs : List α) : (leftover n xs).length = xs.length % n := by
  fun_induction leftover n xs with
  | case1 xs h ih => rw [ih, List.length_drop, ← Nat.mod_eq_sub_mod h.2]
  | case2 xs h => rw [Nat.mod_eq_of_lt (by omega)]

theorem flatten_fullChunks_append_leftover (n : Nat) (xs : List α) :
    (fullChunks n xs).flatten ++ leftover n xs = xs := by
  fun_induction fullChunks n xs with
  | case1 xs hn ih =>
    rw [leftover, if_pos hn, List.flatten_cons, List.append_assoc, ih, List.take_append_drop]
  | case2 xs hn => rw [leftover, if_neg hn, List.flatten_nil, List.nil_append]

theorem length_fullChunks (xs : List α) (hn : 0 < n) :
    (fullChunks n xs).length = xs.length / n := by
  fun_induction fullChunks n xs with
  | case1 xs h ih =>
    rw [List.length_cons, ih, List.length_drop, Nat.div_eq_sub_div hn h.2]
  | case2 xs h => rw [List.length_nil, Nat.div_eq_of_lt (by omega)]

/-! ## All chunks -/

theorem lastChunk_of_ne_nil {xs : List α} (h : xs ≠ []) : lastChunk xs = [xs] :=
  if_neg h

theorem eq_of_mem_lastChunk {xs ys : List α} (h : ys ∈ lastChunk xs) : ys = xs := by
  unfold lastChunk at h
  split at h
  · exact absurd h List.not_mem_nil
  · exact List.mem_singleton.mp h

theorem lastChunk_eq_of_mem {xs ys : List α} (h : ys ∈ lastChunk xs) : lastChunk xs = [ys] := by
  obtain rfl := eq_of_mem_lastChunk h
  unfold lastChunk at h ⊢
  split at h
  · exact absurd h List.not_mem_nil
  · next hne => rw [if_neg hne]

@[simp]
theorem flatten_lastChunk (xs : List α) : (lastChunk xs).flatten = xs := by
  unfold lastChunk
  split
  · next h => simp [h]
  · simp

/-- **The chunks of a list are the list**, cut into pieces. -/
theorem flatten_chunks (n : Nat) (xs : List α) : (chunks n xs).flatten = xs := by
  rw [chunks, List.flatten_append, flatten_lastChunk, flatten_fullChunks_append_leftover]

theorem mem_of_mem_chunks {xs ys : List α} (h : ys ∈ chunks n xs) {a : α} (ha : a ∈ ys) :
    a ∈ xs := by
  rw [← flatten_chunks n xs]
  exact List.mem_flatten_of_mem h ha

/-- No chunk is empty. -/
theorem ne_nil_of_mem_chunks {xs ys : List α} (hn : 0 < n) (h : ys ∈ chunks n xs) : ys ≠ [] := by
  rcases List.mem_append.mp h with h | h
  · have := length_of_mem_fullChunks h
    intro he
    rw [he, List.length_nil] at this
    omega
  · unfold lastChunk at h
    split at h
    · exact absurd h List.not_mem_nil
    · next hne => rwa [List.mem_singleton.mp h]

theorem chunks_append {xs : List α} (hn : 0 < n) (h : xs.length = n) (ys : List α) :
    chunks n (xs ++ ys) = xs :: chunks n ys := by
  rw [chunks, fullChunks_append hn h, leftover_append hn h, List.cons_append, chunks]

theorem chunks_of_lt {xs : List α} (h : xs.length < n) : chunks n xs = lastChunk xs := by
  rw [chunks, fullChunks_of_lt h, leftover_of_lt h, List.nil_append]

theorem chunks_nil (hn : 0 < n) : chunks n ([] : List α) = [] :=
  chunks_of_lt hn

/-- **There are as many chunks as `n` goes into the number of items, rounded up.** -/
theorem length_chunks (hn : 0 < n) (xs : List α) :
    (chunks n xs).length = (xs.length + (n - 1)) / n := by
  have hr := Nat.mod_lt xs.length hn
  have hlast : (lastChunk (leftover n xs)).length = (xs.length % n + (n - 1)) / n := by
    by_cases h0 : xs.length % n = 0
    · rw [List.length_eq_zero_iff.mp ((length_leftover hn xs).trans h0), h0, Nat.zero_add,
        Nat.div_eq_of_lt (by omega)]
      rfl
    · have hne : leftover n xs ≠ [] := by
        rw [← List.length_pos_iff, length_leftover hn]
        omega
      rw [lastChunk_of_ne_nil hne, List.length_singleton]
      exact (Nat.div_eq_of_lt_le (by omega) (by omega)).symm
  calc (chunks n xs).length
      = xs.length / n + (xs.length % n + (n - 1)) / n := by
        rw [chunks, List.length_append, length_fullChunks xs hn, hlast]
    _ = (n * (xs.length / n) + (xs.length % n + (n - 1))) / n := by
        rw [Nat.mul_add_div hn]
    _ = (xs.length + (n - 1)) / n := by
        rw [← Nat.add_assoc, Nat.div_add_mod]

/-- The chunk with the `j`-th item comes after the `j / n` full chunks in front of it. -/
theorem chunks_eq_append_cons (hn : 0 < n) {xs : List α} {j : Nat} (hj : j < xs.length) :
    ∃ rest, chunks n xs = chunks n (xs.take (n * (j / n))) ++
      (xs.drop (n * (j / n))).take n :: rest := by
  induction hk : j / n generalizing xs j with
  | zero =>
    rw [Nat.mul_zero, List.take_zero, List.drop_zero, chunks_nil hn]
    simp only [List.nil_append]
    by_cases hl : n ≤ xs.length
    · have hx : (xs.take n).length = n := by rw [List.length_take]; omega
      refine ⟨chunks n (xs.drop n), ?_⟩
      conv_lhs => rw [← List.take_append_drop n xs]
      rw [chunks_append hn hx]
    · refine ⟨[], ?_⟩
      have hne : xs ≠ [] := by
        rintro rfl
        simp at hj
      rw [chunks_of_lt (by omega), lastChunk_of_ne_nil hne, List.take_of_length_le (by omega)]
  | succ k ih =>
    have hjn : n ≤ j := by
      by_contra h
      rw [Nat.div_eq_of_lt (by omega)] at hk
      omega
    have hx : (xs.take n).length = n := by rw [List.length_take]; omega
    have hkn : (j - n) / n = k := by
      rw [Nat.div_eq_sub_div hn hjn] at hk
      omega
    have hj' : j - n < (xs.drop n).length := by
      rw [List.length_drop]
      omega
    obtain ⟨rest, hrest⟩ := ih hj' hkn
    refine ⟨rest, ?_⟩
    have hmul : n * (k + 1) = n + n * k := by rw [Nat.mul_add, Nat.mul_one, Nat.add_comm]
    have htake : xs.take (n * (k + 1)) = xs.take n ++ (xs.drop n).take (n * k) := by
      rw [hmul, List.take_add]
    have hdrop : xs.drop (n * (k + 1)) = (xs.drop n).drop (n * k) := by
      rw [hmul, List.drop_drop]
    rw [htake, hdrop, chunks_append hn hx, List.cons_append, ← hrest,
      ← chunks_append hn hx, List.take_append_drop]

/-- The chunk with the `j`-th item, opened at that item. -/
theorem chunks_eq_append_mid (hn : 0 < n) {xs : List α} {j : Nat} {x : α}
    (hj : xs[j]? = some x) :
    ∃ known more rest,
      chunks n xs = chunks n (xs.take (n * (j / n))) ++ (known ++ x :: more) :: rest ∧
        ∀ y ∈ known, y ∈ xs.take j := by
  obtain ⟨hlt, -⟩ := List.getElem?_eq_some_iff.mp hj
  obtain ⟨rest, hrest⟩ := chunks_eq_append_cons hn hlt
  have hle : n * (j / n) ≤ j := Nat.mul_div_le j n
  have hmod : j - n * (j / n) < n := by
    rw [← Nat.mod_eq_sub_mul_div]
    exact Nat.mod_lt j hn
  have hmid : ((xs.drop (n * (j / n))).take n)[j - n * (j / n)]? = some x := by
    rw [List.getElem?_take_of_lt hmod, List.getElem?_drop, Nat.add_sub_cancel' hle, hj]
  obtain ⟨hlt', hx⟩ := List.getElem?_eq_some_iff.mp hmid
  refine ⟨((xs.drop (n * (j / n))).take n).take (j - n * (j / n)),
    ((xs.drop (n * (j / n))).take n).drop (j - n * (j / n) + 1), rest, ?_, ?_⟩
  · rw [← hx, ← List.drop_eq_getElem_cons hlt', List.take_append_drop]
    exact hrest
  · intro y hy
    rw [List.take_take, Nat.min_eq_left (by omega), ← List.drop_take] at hy
    exact List.mem_of_mem_drop hy

end IssueNotice
