import IssueNotice.Notice

/-!
# Run events

What a run does to the world around it, noted before it is carried out: calls of its collaborators,
releases of what they handed out, messages to the user and counters reported. Between these events a
run reads from streams of issues; `Act` has both, in the order in which they happen.
-/

namespace IssueNotice

/-- One thing that a run does. -/
inductive Event where
  /-- Asks whether anybody subscribed to any of some kinds of notice. -/
  | askSubscribers (projectUuid : String) (kinds : List NoticeKind)
  /-- Starts to read the issues. -/
  | openStream
  /-- Stops reading the issues after a number of reads. -/
  | closeStream (reads : Nat)
  | openSession
  | selectUsers (uuids : List String)
  | closeSession
  | findRule (key : String)
  /-- Hands notices to the email channel. -/
  | sendBulk (notices : List Notice)
  /-- Hands a notice to the legacy channel. -/
  | sendSingle (notice : Notice)
  /-- Tells the user something. -/
  | report (text : String)
  /-- Tells the user how many changed issues were announced. -/
  | progress (count : Nat) (text : String)
  /-- Tells the user that the run failed. -/
  | failed (text : String)
  /-- Tells the user that the run ended. -/
  | completed (text : String)
  /-- Reports a counter. -/
  | counter (name : String) (value : Nat)
  deriving DecidableEq

/-- One act of a run: an event, or a read from a stream of issues. -/
inductive Act where
  | event (e : Event)
  /-- Reads from a stream, whatever that gives: an issue, the end or a failure. -/
  | read
  deriving DecidableEq

/-- The event that an act is, if it is one. -/
def Act.event? : Act → Option Event
  | event e => some e
  | read => none

end IssueNotice
