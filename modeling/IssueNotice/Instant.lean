/-!
# Instants

A point in time in UTC: a day, a second of that day and a fraction in nanoseconds. A fraction of a
whole second or more marks a leap second, so it stays below two seconds.

Instants are ordered day first, then second, then fraction. `Instant.truncate` drops the
fraction below the whole second; a leap second stays one.
-/

namespace IssueNotice

/-- Nanoseconds in a second. -/
abbrev nanosPerSecond : Nat := 1000000000

/-- Seconds in a day, leap seconds left aside. -/
abbrev secondsPerDay : Nat := 86400

/-- A point in time in UTC. -/
structure Instant where
  /-- Days since 1 January 1970. -/
  day : Int
  /-- Second of the day. -/
  second : Nat
  /-- Nanoseconds; from one whole second on, within a leap second. -/
  nano : Nat
  second_lt : second < secondsPerDay := by decide
  nano_lt : nano < 2 * nanosPerSecond := by decide
  deriving Repr, DecidableEq

namespace Instant

/-- Not later than. -/
protected def le (a b : Instant) : Prop :=
  a.day < b.day ∨ a.day = b.day ∧
    (a.second < b.second ∨ a.second = b.second ∧ a.nano ≤ b.nano)

instance : LE Instant := ⟨Instant.le⟩

instance (a b : Instant) : Decidable (a ≤ b) :=
  inferInstanceAs (Decidable (_ ∨ _))

/-- The instant with its fraction cut to whole seconds. -/
def truncate (t : Instant) : Instant where
  day := t.day
  second := t.second
  nano := t.nano - t.nano % nanosPerSecond
  second_lt := t.second_lt
  nano_lt := Nat.lt_of_le_of_lt (Nat.sub_le _ _) t.nano_lt

end Instant

end IssueNotice
