/-!
# Totals

The sum of a list of numbers, with its laws for lists that are put together or reordered.
-/

namespace IssueNotice

/-- The sum of some numbers. -/
def total (ns : List Nat) : Nat := ns.foldr (· + ·) 0

@[simp]
theorem total_nil : total [] = 0 := rfl

@[simp]
theorem total_cons (n : Nat) (ns : List Nat) : total (n :: ns) = n + total ns := rfl

@[simp]
theorem total_append (ms ns : List Nat) : total (ms ++ ns) = total ms + total ns := by
  induction ms with
  | nil => simp
  | cons m ms ih => simp [ih, Nat.add_assoc]

theorem total_perm {ms ns : List Nat} (h : ms.Perm ns) : total ms = total ns :=
  h.sum_nat

theorem total_map_add {α : Type} (f g : α → Nat) (xs : List α) :
    total (xs.map fun x => f x + g x) = total (xs.map f) + total (xs.map g) := by
  induction xs with
  | nil => rfl
  | cons x rest ih =>
    simp only [List.map_cons, total_cons, ih]
    omega

theorem total_map_ite {α : Type} (p : α → Bool) (xs : List α) :
    total (xs.map fun x => if p x then 1 else 0) = xs.countP p := by
  induction xs with
  | nil => rfl
  | cons x rest ih => rw [List.map_cons, total_cons, ih, List.countP_cons, Nat.add_comm]

theorem total_map_one {α : Type} (xs : List α) : total (xs.map fun _ => 1) = xs.length := by
  simpa using total_map_ite (fun _ => true) xs

theorem total_eq_zero {ns : List Nat} (h : ∀ n ∈ ns, n = 0) : total ns = 0 := by
  induction ns with
  | nil => rfl
  | cons n rest ih =>
    rw [total_cons, h n List.mem_cons_self, ih fun m hm => h m (List.mem_cons_of_mem _ hm)]

/-- No number is above the sum. -/
theorem le_total_of_mem {ns : List Nat} {n : Nat} (h : n ∈ ns) : n ≤ total ns := by
  induction ns with
  | nil => exact absurd h List.not_mem_nil
  | cons m rest ih =>
    rw [total_cons]
    rcases List.mem_cons.mp h with rfl | h
    · exact Nat.le_add_right _ _
    · exact Nat.le_trans (ih h) (Nat.le_add_left _ _)

end IssueNotice
