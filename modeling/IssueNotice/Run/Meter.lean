/-!
# Meters

A meter counts how often something was handed out and how much of it is still held.
-/

namespace IssueNotice

/-- How often something was handed out, and how much of it is still held. -/
structure Meter where
  opened : Nat := 0
  held : Nat := 0
  deriving Repr, DecidableEq

namespace Meter

/-- Hands out one more. -/
def acquire (m : Meter) : Meter where
  opened := m.opened + 1
  held := m.held + 1

/-- Takes one back. -/
def release (m : Meter) : Meter :=
  { m with held := m.held - 1 }

end Meter

end IssueNotice
