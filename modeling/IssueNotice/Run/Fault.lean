import IssueNotice.Run

/-!
# Faults

Collaborators can be made to fail at chosen calls. A fault names a kind of call and a number, and
makes the call of that number answer a failure instead of being carried out. Calls are numbered over
all runs, from one. A call for a stream or a session has the number that it would hand out: a
failing one hands out none, so that the next has the same number and fails as well. The question for
subscribers is asked once in a run and is number one each time.
-/

namespace IssueNotice.Run

/-- The calls that can be made to fail. -/
inductive Fallible where
  | hasSubscribers
  | openStream
  /-- Reads of the first stream that was handed out. -/
  | firstRead
  /-- Reads of the second stream that was handed out. -/
  | secondRead
  | openSession
  | selectUsers
  | findRule
  | sendBulk
  | sendSingle
  deriving Repr, DecidableEq

/-- Makes the call of a number fail. -/
structure Fault where
  call : Fallible
  number : Nat
  /-- What the failing call answers. -/
  failure : Failure
  deriving Repr, DecidableEq

/-- The failure planned for a call of a number. -/
def planned (faults : List Fault) (call : Fallible) (number : Nat) : Option Failure :=
  (faults.find? fun f => f.call = call ∧ f.number = number).map (·.failure)

/-- Numbers of the calls made so far, and of the streams and sessions handed out. -/
structure CallCounts where
  openStream : Nat := 0
  openSession : Nat := 0
  selectUsers : Nat := 0
  findRule : Nat := 0
  sendBulk : Nat := 0
  sendSingle : Nat := 0

/-- Carries a call out, unless a failure is planned for it; the counts behind it depend on that. -/
def unlessPlanned {σ α : Type} (failure : Option Failure) (answer : Answer σ α)
    (failed carriedOut : CallCounts) : Answer (σ × CallCounts) α := fun (s, _) =>
  match failure with
  | some e => (.error e, s, failed)
  | none =>
    let (result, s) := answer s
    (result, s, carriedOut)

/-- The reads of a stream, with a failure in place of the read of a number. -/
def spoil (reads : List Read) (number : Nat) (failure : Failure) : List Read :=
  if 0 < number ∧ number ≤ reads.length + 1 then reads.take (number - 1) ++ [.error failure]
  else reads

/-- The reads of a stream with the failures planned for it. -/
def spoilAll (faults : List Fault) (call : Fallible) (reads : List Read) : List Read :=
  (faults.filter (·.call = call)).foldl (fun reads f => spoil reads f.number f.failure) reads

/-- The reads of the stream that was handed out as the n-th. -/
def spoilStream (faults : List Fault) (n : Nat) (reads : List Read) : List Read :=
  if n = 1 then spoilAll faults .firstRead reads
  else if n = 2 then spoilAll faults .secondRead reads
  else reads

/-- Collaborators that fail as planned, and otherwise answer as before. -/
def withFaults {σ : Type} (faults : List Fault) (c : Collaborators σ) :
    Collaborators (σ × CallCounts) where
  hasSubscribers uuid kinds s :=
    unlessPlanned (planned faults .hasSubscribers 1) (c.hasSubscribers uuid kinds) s.2 s.2 s
  openStream s :=
    let n := s.2.openStream + 1
    let (result, s) :=
      unlessPlanned (planned faults .openStream n) c.openStream s.2 { s.2 with openStream := n } s
    (result.map (spoilStream faults n), s)
  closeStream s := (c.closeStream s.1, s.2)
  openSession s :=
    let n := s.2.openSession + 1
    unlessPlanned (planned faults .openSession n) c.openSession s.2 { s.2 with openSession := n } s
  selectUsers uuids s :=
    let n := s.2.selectUsers + 1
    let counts := { s.2 with selectUsers := n }
    unlessPlanned (planned faults .selectUsers n) (c.selectUsers uuids) counts counts s
  closeSession s := (c.closeSession s.1, s.2)
  findRule key s :=
    let n := s.2.findRule + 1
    let counts := { s.2 with findRule := n }
    unlessPlanned (planned faults .findRule n) (c.findRule key) counts counts s
  sendBulk notices s :=
    let n := s.2.sendBulk + 1
    let counts := { s.2 with sendBulk := n }
    unlessPlanned (planned faults .sendBulk n) (c.sendBulk notices) counts counts s
  sendSingle notice s :=
    let n := s.2.sendSingle + 1
    let counts := { s.2 with sendSingle := n }
    unlessPlanned (planned faults .sendSingle n) (c.sendSingle notice) counts counts s

end IssueNotice.Run
