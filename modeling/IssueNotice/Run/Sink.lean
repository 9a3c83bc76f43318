import IssueNotice.Run.Event

/-!
# Counter sinks

A sink receives the counters that runs report and keeps every one of them, in order.
-/

namespace IssueNotice

/-- The counters that were reported, by their names. -/
structure Sink where
  entries : Array (String × Nat) := #[]
  deriving Repr, DecidableEq

namespace Sink

/-- Keeps one more counter. -/
def add (s : Sink) (name : String) (value : Nat) : Sink where
  entries := s.entries.push (name, value)

/-- The value of the first counter with a name. -/
def get? (s : Sink) (name : String) : Option Nat :=
  (s.entries.find? fun entry => entry.1 == name).map Prod.snd

/-- Keeps the counter that an event reports, if it does. -/
def receive (s : Sink) : Event → Sink
  | .counter name value => s.add name value
  | _ => s

/-- What some events leave in a sink. -/
def ofEvents (events : List Event) : Sink := events.foldl receive {}

end Sink

end IssueNotice
