import IssueNotice.Issue
import IssueNotice.Run.Traced

/-!
# Collaborators of a run

A run talks to an issue cache, a user store, a rule store and a messaging service. They share a
state of their own, and every call may fail. A stream of issues is the list of its reads in order,
each an issue or a failure; behind the list the stream is at its end.
-/

namespace IssueNotice

/-- An answer that depends on the collaborators' state, may change it, and may be a failure. -/
abbrev Answer (σ α : Type) := σ → Except Failure α × σ

/-- What a read of an issue stream gives. -/
abbrev Read := Except Failure Issue

/-- Whom a run talks to, over their shared state. -/
structure Collaborators (σ : Type) where
  /-- Whether anybody subscribed to any of some kinds of notice of a project. -/
  hasSubscribers : String → List NoticeKind → Answer σ Bool
  /-- Hands out a stream of the issues. -/
  openStream : Answer σ (List Read)
  /-- Takes a stream back. -/
  closeStream : σ → σ
  /-- Hands out a session with the user store. -/
  openSession : Answer σ Unit
  /-- The users with some uuids; those without a record are left out. -/
  selectUsers : List String → Answer σ (List User)
  /-- Takes a session back. -/
  closeSession : σ → σ
  /-- The rule with a key, if there is one. -/
  findRule : String → Answer σ (Option Rule)
  /-- Delivers notices by email and answers how many recipients that reached. -/
  sendBulk : List Notice → Answer σ Nat
  /-- Delivers a notice by the legacy channel and answers how many recipients that reached. -/
  sendSingle : Notice → Answer σ Nat

namespace Collaborators

variable {σ β : Type} (c : Collaborators σ)

/-- Releases a stream after a number of reads. -/
def endStream (reads : Nat) : Traced σ Unit :=
  .release (.closeStream reads) c.closeStream

/--
Reads a stream to its end, a failing read or a failing step, and releases it then. The read that
finds the end, or fails, counts.
-/
def readAll (step : β → Issue → Traced σ β) (reads : Nat) (b : β) : List Read → Traced σ β
  | [] => do
    .read
    c.endStream (reads + 1)
    pure b
  | .error e :: _ => do
    .read
    c.endStream (reads + 1)
    .fail e
  | .ok issue :: rest => do
    .read
    let b ← (step b issue).onFailure fun _ => c.endStream (reads + 1)
    readAll step (reads + 1) b rest

/-- Carries a value through all issues. -/
def foldIssues (step : β → Issue → Traced σ β) (b : β) : Traced σ β := do
  let stream ← .call .openStream c.openStream
  c.readAll step 0 b stream

/-- The users with some uuids, by uuid; without uuids no session is opened. -/
def resolveUsers (uuids : List String) : Traced σ (Keyed User) :=
  if uuids.isEmpty then pure ∅
  else do
    .call .openSession c.openSession
    let users ← (Traced.call (.selectUsers uuids) (c.selectUsers uuids)).andFinally
      (.release .closeSession c.closeSession)
    pure (User.byUuid users)

end Collaborators

end IssueNotice
