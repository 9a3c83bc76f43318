import IssueNotice.Issue
import IssueNotice.Run.Meter

/-!
# Issue caches

The issues of an analysis, read through streams. Any number of streams may be open, each with its
own place; the cache counts how many were handed out and how many are open. A run is handed a stream
as the list of all its reads, which is what a cache gives (`execute_throughCache`).
-/

namespace IssueNotice

/-- The issues of an analysis and the streams over them. -/
structure IssueCache where
  issues : List Issue
  /-- What each stream has left to read, by its number; nothing once it was released. -/
  streams : Array (Option (List Issue)) := #[]
  meter : Meter := {}
  deriving Repr, DecidableEq

namespace IssueCache

/-- Hands out a stream at the first issue, and its number. -/
def openStream (c : IssueCache) : Nat × IssueCache :=
  (c.streams.size,
    { c with streams := c.streams.push (some c.issues), meter := c.meter.acquire })

/-- The next issue of a stream, if any is left. -/
def next (c : IssueCache) (stream : Nat) : Option Issue × IssueCache :=
  match c.streams[stream]? with
  | some (some (issue :: rest)) =>
    (some issue, { c with streams := c.streams.setIfInBounds stream (some rest) })
  | _ => (none, c)

/-- Takes a stream back; a second time does nothing. -/
def closeStream (c : IssueCache) (stream : Nat) : IssueCache :=
  match c.streams[stream]? with
  | some (some _) =>
    { c with streams := c.streams.setIfInBounds stream none, meter := c.meter.release }
  | _ => c

end IssueCache

end IssueNotice
