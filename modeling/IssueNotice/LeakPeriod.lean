import IssueNotice.Issue

/-!
# The leak period

New issues count as leaked when they were created at or after the analysis, to the second: creation
dates are kept in whole seconds, so the start of the period is cut to whole seconds too.

`LeakPeriod.route` says what becomes of an issue. Hotspots are ignored; a new unresolved issue is
counted; any other issue is announced when a change notice is due.
-/

namespace IssueNotice

/-- The period from an analysis on. -/
structure LeakPeriod where
  /-- First instant of the period. -/
  start : Instant
  deriving Repr, DecidableEq

/-- What becomes of an issue. -/
inductive Route where
  | ignored
  /-- Counted among the new issues, on the leak period or before it. -/
  | counted (onLeak : Bool)
  /-- Announced in a change notice. -/
  | announced
  deriving Repr, DecidableEq

namespace LeakPeriod

/-- The period of an analysis. -/
def ofAnalysisDate (date : Instant) : LeakPeriod := ⟨date.truncate⟩

/-- Whether an issue created then falls into the period. -/
def contains (p : LeakPeriod) (created : Instant) : Bool :=
  p.start ≤ created

/-- Whether an issue is new, unresolved and in the period. -/
def isOnLeak (p : LeakPeriod) (i : Issue) : Bool :=
  i.isNewUnresolved && p.contains i.created

/-- What becomes of an issue. -/
def route (p : LeakPeriod) (i : Issue) : Route :=
  if i.isHotspot then .ignored
  else if i.isNewUnresolved then .counted (p.contains i.created)
  else if i.isChanged && i.notifyDue then .announced
  else .ignored

end LeakPeriod

end IssueNotice
