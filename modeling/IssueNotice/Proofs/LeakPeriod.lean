import IssueNotice.LeakPeriod
import Mathlib.Order.Bounds.Basic
import Mathlib.Order.Monotone.Basic

/-!
# The leak period works to the second

Instants are in a linear order, day first, then second, then fraction, and a leap second is later
than everything before it in its second. The whole instants are those without a fraction below the
second, leap seconds among them.

`Instant.le_truncate_iff` says what cutting to whole seconds does: a whole instant is not later
than an instant iff it is not later than that instant cut. The rest follows from it:
* `Instant.isGreatest_truncate`: cutting gives the last whole instant that is not later.
* `Instant.truncate_mono`: cutting keeps the order.
* `LeakPeriod.precise_to_second`: whether an issue is on the leak period depends on dates to the
  second only, and the issues routed as leaked are those on the leak period that are no hotspots.
-/

namespace IssueNotice

namespace Instant

/-! ## The order of instants -/

variable {a b c t w : Instant}

theorem le_iff : a ≤ b ↔ a.day < b.day ∨ a.day = b.day ∧
    (a.second < b.second ∨ a.second = b.second ∧ a.nano ≤ b.nano) :=
  Iff.rfl

/-- Instants are ordered day first, then second, then fraction. -/
instance : LinearOrder Instant where
  le_refl a := by
    rw [le_iff]
    omega
  le_trans a b c := by
    simp only [le_iff]
    omega
  le_antisymm a b hab hba := by
    rw [le_iff] at hab hba
    have hday : a.day = b.day := by omega
    have hsecond : a.second = b.second := by omega
    have hnano : a.nano = b.nano := by omega
    cases a
    cases b
    simp only [mk.injEq]
    exact ⟨hday, hsecond, hnano⟩
  le_total a b := by
    simp only [le_iff]
    omega
  toDecidableLE := inferInstance

/-! ## Whole instants -/

/-- Without a fraction below the second. -/
def IsWhole (t : Instant) : Prop := t.nano % nanosPerSecond = 0

theorem isWhole_truncate (t : Instant) : t.truncate.IsWhole := by
  unfold IsWhole truncate nanosPerSecond
  dsimp only
  omega

theorem truncate_le (t : Instant) : t.truncate ≤ t :=
  .inr ⟨rfl, .inr ⟨rfl, Nat.sub_le _ _⟩⟩

/-- **Whole instants do not see what is cut off.** -/
theorem le_truncate_iff (hw : w.IsWhole) : w ≤ t.truncate ↔ w ≤ t := by
  refine ⟨fun h => h.trans t.truncate_le, fun h => ?_⟩
  have hnano : w.nano ≤ t.nano → w.nano ≤ t.nano - t.nano % nanosPerSecond := by
    unfold IsWhole nanosPerSecond at hw
    unfold nanosPerSecond
    omega
  exact h.imp_right (And.imp_right (Or.imp_right (And.imp_right hnano)))

/-- Cutting gives the last whole instant that is not later. -/
theorem isGreatest_truncate (t : Instant) : IsGreatest {w | w.IsWhole ∧ w ≤ t} t.truncate :=
  ⟨⟨t.isWhole_truncate, t.truncate_le⟩, fun _ ⟨hw, h⟩ => (le_truncate_iff hw).mpr h⟩

/-- A leap second, cut, stays within its second 60. -/
example : ({ day := 0, second := 59, nano := 1750000000 } : Instant).truncate =
    { day := 0, second := 59, nano := 1000000000 } := by decide

theorem IsWhole.truncate_eq (hw : w.IsWhole) : w.truncate = w :=
  le_antisymm w.truncate_le ((le_truncate_iff hw).mpr le_rfl)

/-- Cutting keeps the order. -/
theorem truncate_mono : Monotone truncate := fun a _ h =>
  (le_truncate_iff a.isWhole_truncate).mpr (a.truncate_le.trans h)

end Instant

namespace LeakPeriod

/-! ## Periods and issues -/

variable (analysed created : Instant)

theorem contains_iff : (ofAnalysisDate analysed).contains created = true ↔
    analysed.truncate ≤ created := by
  unfold contains ofAnalysisDate
  exact decide_eq_true_iff

/-- The period of an analysis and of its date cut to whole seconds are the same. -/
theorem ofAnalysisDate_truncate : ofAnalysisDate analysed.truncate = ofAnalysisDate analysed :=
  congrArg mk analysed.isWhole_truncate.truncate_eq

theorem contains_truncate :
    (ofAnalysisDate analysed).contains created.truncate =
      (ofAnalysisDate analysed).contains created := by
  rw [Bool.eq_iff_iff, contains_iff, contains_iff,
    Instant.le_truncate_iff analysed.isWhole_truncate]

/-- **Routed as leaked are the issues on the leak period that are no hotspots.** -/
theorem route_eq_leaked (p : LeakPeriod) (i : Issue) :
    p.route i = .counted true ↔ i.isHotspot = false ∧ p.isOnLeak i = true := by
  unfold route isOnLeak
  cases hhot : i.isHotspot with
  | true => simp
  | false =>
    cases hnew : i.isNewUnresolved with
    | true => simp
    | false =>
      cases hdue : i.isChanged && i.notifyDue <;> simp

/-- **The leak period works at second precision.** Cutting gives the last whole instant that is not
later than a date, is idempotent and keeps the order. A period contains the dates that are not
earlier than the analysis to the second, so that it does not matter whether dates are kept whole.
An issue is routed as leaked iff it is on the leak period and no hotspot. -/
theorem precise_to_second :
    (∀ t : Instant, IsGreatest {w | w.IsWhole ∧ w ≤ t} t.truncate) ∧
      (∀ t : Instant, t.truncate.truncate = t.truncate) ∧
      Monotone Instant.truncate ∧
      (∀ analysed created, (ofAnalysisDate analysed).contains created = true ↔
        ¬ created.truncate < analysed.truncate) ∧
      (∀ analysed created, (ofAnalysisDate analysed.truncate).contains created =
          (ofAnalysisDate analysed).contains created ∧
        (ofAnalysisDate analysed).contains created.truncate =
          (ofAnalysisDate analysed).contains created) ∧
      ∀ (p : LeakPeriod) (i : Issue),
        p.route i = .counted true ↔ i.isHotspot = false ∧ p.isOnLeak i = true := by
  refine ⟨Instant.isGreatest_truncate, fun t => t.isWhole_truncate.truncate_eq,
    Instant.truncate_mono, fun analysed created => ?_, fun analysed created => ?_,
    route_eq_leaked⟩
  · rw [← contains_truncate, contains_iff, not_lt]
  · exact ⟨by rw [ofAnalysisDate_truncate], contains_truncate analysed created⟩

end LeakPeriod

end IssueNotice
