import IssueNotice.Proofs.Traced
import IssueNotice.Run.Fault
import Mathlib.Data.List.Induction

/-!
# Where a fault cuts a run

A fault names a kind of call and a number. `tally` counts the calls of each kind that a run made so
far, `Fault.Hits` says which act of a run is the one that a fault names, and `cut` is the part of a
run up to and including that act.

Results:
* `cut_of_hits`, `hits_of_cut`: a run is cut where the fault hits, and nowhere else. Tallies only
  grow, so that a fault hits once.
* `cut_append_of_some`, `cut_append_of_none`: how a cut is found in a run that is put together.
* `tally_reads`: reads are counted for a stream only once it was handed out.
-/

namespace IssueNotice

open Run

/-! ## Calls and their numbers -/

namespace Event

/-- The kind of call that an event is, if it can be made to fail. -/
def fallible : Event → Option Fallible
  | .askSubscribers _ _ => some .hasSubscribers
  | .openStream => some .openStream
  | .openSession => some .openSession
  | .selectUsers _ => some .selectUsers
  | .findRule _ => some .findRule
  | .sendBulk _ => some .sendBulk
  | .sendSingle _ => some .sendSingle
  | _ => none

end Event

namespace Run

/-- How many calls of each kind were made. -/
abbrev Tally := Fallible → Nat

namespace Tally

/-- The kind of the next act. A read is one of the stream that was handed out last. -/
def kind (t : Tally) : Act → Option Fallible
  | .event e => e.fallible
  | .read =>
    if t .openStream = 1 then some .firstRead
    else if t .openStream = 2 then some .secondRead
    else none

/-- Counts one more act. -/
def add (t : Tally) (a : Act) : Tally :=
  fun k => t k + if t.kind a = some k then 1 else 0

theorem add_of_eq {t : Tally} {a : Act} {k : Fallible} (h : t.kind a = some k) :
    t.add a k = t k + 1 := by
  rw [add, if_pos h]

theorem add_of_ne {t : Tally} {a : Act} {k : Fallible} (h : t.kind a ≠ some k) :
    t.add a k = t k := by
  rw [add, if_neg h, Nat.add_zero]

/-- A read is one of the first or of the second stream. -/
theorem kind_read {t : Tally} {k : Fallible} (h : t.kind .read = some k) :
    k = .firstRead ∨ k = .secondRead := by
  unfold kind at h
  by_cases h₁ : t .openStream = 1
  · exact .inl (by simpa [h₁] using h.symm)
  · by_cases h₂ : t .openStream = 2
    · exact .inr (by simpa [h₂] using h.symm)
    · exact absurd h (by simp [h₁, h₂])

theorem kind_read_ne (t : Tally) : t.kind .read ≠ some .openStream := by
  intro h
  rcases kind_read h with h | h <;> exact absurd h (by decide)

end Tally

/-- The calls of each kind among some acts. -/
def tally (acts : List Act) : Tally :=
  acts.foldl Tally.add fun _ => 0

/-- Whether the act behind some others is the call that a fault names. -/
def Fault.Hits (f : Fault) (past : List Act) (a : Act) : Prop :=
  (tally past).kind a = some f.call ∧ tally past f.call + 1 = f.number

instance (f : Fault) (past : List Act) (a : Act) : Decidable (f.Hits past a) :=
  inferInstanceAs (Decidable (_ ∧ _))

/-- Acts behind some others, up to and including the one that a fault hits. -/
def cut (f : Fault) (past : List Act) : List Act → Option (List Act)
  | [] => none
  | a :: rest => if f.Hits past a then some [a] else (cut f (past ++ [a]) rest).map (a :: ·)

/-- What collaborators with faults count behind some acts. -/
def counts (past : List Act) : CallCounts where
  openStream := tally past .openStream
  openSession := tally past .openSession
  selectUsers := tally past .selectUsers
  findRule := tally past .findRule
  sendBulk := tally past .sendBulk
  sendSingle := tally past .sendSingle

variable {f : Fault} {past : List Act}

theorem tally_snoc (past : List Act) (a : Act) : tally (past ++ [a]) = (tally past).add a := by
  unfold tally
  rw [List.foldl_append]
  rfl

theorem tally_le_append (past as : List Act) (k : Fallible) :
    tally past k ≤ tally (past ++ as) k := by
  induction as using List.reverseRecOn with
  | nil => exact Nat.le_of_eq (by rw [List.append_nil])
  | append_singleton as a ih =>
    rw [← List.append_assoc, tally_snoc]
    exact Nat.le_trans ih (Nat.le_add_right _ _)

/-- An act that is no call counts for nothing. -/
theorem tally_snoc_of_none {a : Act} (h : (tally past).kind a = none) :
    tally (past ++ [a]) = tally past := by
  rw [tally_snoc]
  funext k
  exact Tally.add_of_ne (by simp [h])

/-- No event is a read. -/
theorem fallible_ne_read (e : Event) :
    e.fallible ≠ some .firstRead ∧ e.fallible ≠ some .secondRead := by
  cases e <;> simp [Event.fallible]

/-- Before a stream was handed out nothing was read from it. -/
theorem tally_reads (past : List Act) :
    (tally past .openStream = 0 → tally past .firstRead = 0) ∧
      (tally past .openStream ≤ 1 → tally past .secondRead = 0) := by
  induction past using List.reverseRecOn with
  | nil => exact ⟨fun _ => rfl, fun _ => rfl⟩
  | append_singleton past a ih =>
    obtain ⟨h₁, h₂⟩ := ih
    rw [tally_snoc]
    cases a with
    | event e =>
      obtain ⟨hf, hs⟩ := fallible_ne_read e
      rw [Tally.add_of_ne (a := .event e) hf, Tally.add_of_ne (a := .event e) hs]
      have hle := Nat.le_add_right (tally past .openStream)
        (if (tally past).kind (.event e) = some .openStream then 1 else 0)
      exact ⟨fun h => h₁ (Nat.le_zero.mp (h ▸ hle)), fun h => h₂ (Nat.le_trans hle h)⟩
    | read =>
      rw [Tally.add_of_ne (Tally.kind_read_ne _)]
      constructor
      · intro h
        rw [Tally.add_of_ne (by simp [Tally.kind, h])]
        exact h₁ h
      · intro h
        have hk : (tally past).kind .read ≠ some .secondRead := by
          simp only [Tally.kind, if_neg (show ¬ tally past .openStream = 2 by omega)]
          split <;> simp
        rw [Tally.add_of_ne hk]
        exact h₂ h

/-! ## The cut -/

/-- What is cut stays cut when a run goes on. -/
theorem cut_append_of_some {as front : List Act} (h : cut f past as = some front)
    (bs : List Act) : cut f past (as ++ bs) = some front := by
  induction as generalizing past front with
  | nil => exact absurd h (by simp [cut])
  | cons a rest ih =>
    rw [List.cons_append, cut]
    rw [cut] at h
    by_cases hh : f.Hits past a
    · rw [if_pos hh] at h ⊢
      exact h
    · rw [if_neg hh] at h ⊢
      obtain ⟨front', hf, rfl⟩ := Option.map_eq_some_iff.mp h
      rw [ih hf]
      rfl

theorem cut_append_of_none {as : List Act} (h : cut f past as = none) (bs : List Act) :
    cut f past (as ++ bs) = (cut f (past ++ as) bs).map (as ++ ·) := by
  induction as generalizing past with
  | nil =>
    rw [List.append_nil]
    exact (congrFun Option.map_id _).symm
  | cons a rest ih =>
    rw [cut] at h
    rw [List.cons_append, cut]
    by_cases hh : f.Hits past a
    · rw [if_pos hh] at h
      exact absurd h (by simp)
    · rw [if_neg hh] at h ⊢
      rw [ih (Option.map_eq_none_iff.mp h), Option.map_map, List.append_assoc]
      rfl

/-- A run is cut at an act that the fault hits. -/
theorem cut_of_hits {before : List Act} {a : Act} (h : f.Hits (past ++ before) a)
    (after : List Act) : cut f past (before ++ a :: after) = some (before ++ [a]) := by
  induction before generalizing past with
  | nil =>
    rw [List.append_nil] at h
    rw [List.nil_append, cut, if_pos h]
    rfl
  | cons b rest ih =>
    have hb : ¬ f.Hits past b := by
      -- the fault names the call of one number, and `b` has a smaller one
      rintro ⟨hk, hn⟩
      have hle := tally_le_append (past ++ [b]) rest f.call
      rw [tally_snoc, Tally.add_of_eq hk, List.append_assoc] at hle
      have := h.2
      simp only [List.singleton_append] at hle
      omega
    rw [List.cons_append, cut, if_neg hb, ih (by rwa [List.append_assoc])]
    rfl

/-- Where a run is cut, the fault hits. -/
theorem hits_of_cut {as front : List Act} (h : cut f past as = some front) :
    ∃ before a after, as = before ++ a :: after ∧ f.Hits (past ++ before) a := by
  induction as generalizing past front with
  | nil => exact absurd h (by simp [cut])
  | cons a rest ih =>
    rw [cut] at h
    by_cases hh : f.Hits past a
    · exact ⟨[], a, rest, rfl, by rwa [List.append_nil]⟩
    · rw [if_neg hh] at h
      obtain ⟨front', hf, -⟩ := Option.map_eq_some_iff.mp h
      obtain ⟨before, b, after, rfl, hb⟩ := ih hf
      exact ⟨a :: before, b, after, rfl, by rwa [List.append_assoc] at hb⟩

/-- An act that is no call is never hit. -/
theorem cut_of_none {a : Act} (h : (tally past).kind a = none) : cut f past [a] = none := by
  have hh : ¬ f.Hits past a := by
    rintro ⟨hk, -⟩
    rw [h] at hk
    exact absurd hk (by simp)
  rw [cut, if_neg hh]
  rfl

end Run

end IssueNotice
