import IssueNotice.Proofs.Component.PostOrder
import IssueNotice.Proofs.Run.Streams
import IssueNotice.Run
import IssueNotice.Total
import Mathlib.Data.List.Forall2

/-!
# What a run may rely on

Collaborators are arbitrary functions over a state of their own. `Collaborators.Answers` says that
they never fail and that their cache holds some issues; `Knows` and `Lacks` say what the rule store
has. What they answer may still differ from call to call, so streams, users, notices and numbers of
recipients are tied to them by relations: `Hands`, `Resolves`, `Drafts` and `Reaches`.

The second half is how what a run asks of its collaborators shows: users that are looked up and
notices that are handed to both channels, and how these are counted.
-/

namespace IssueNotice

open Run

/-- What holds of everything that is related holds of everything on the right. -/
theorem forall_mem_of_forall₂ {α β : Type} {R : α → β → Prop} {p : β → Prop} {as : List α}
    {bs : List β} (h : List.Forall₂ R as bs) (hp : ∀ a b, R a b → p b) : ∀ b ∈ bs, p b := by
  induction h with
  | nil => exact fun b hb => absurd hb List.not_mem_nil
  | cons hab _ ih =>
    intro b hb
    rcases List.mem_cons.mp hb with rfl | hb
    · exact hp _ _ hab
    · exact ih b hb

theorem Run.Desk.kind_of_change {d : Desk} {i : Issue} {rule : Option Rule}
    {file : Option Component} {n : Notice} (h : d.change i rule file = .ok n) :
    n.kind = .issueChanges := by
  cases rule with
  | none => exact absurd h (by simp [Desk.change, Draft.change, Except.map])
  | some rule =>
    obtain rfl := Except.ok.inj h
    rfl

namespace Collaborators

variable {σ β : Type} (c : Collaborators σ)

/-- The collaborators never fail, and every stream has the given issues. -/
structure Answers (issues : List Issue) : Prop where
  stream : ∀ s, (c.openStream s).1 = .ok (issues.map .ok)
  session : ∀ s, (c.openSession s).1 = .ok ()
  users : ∀ uuids s, ∃ found, (c.selectUsers uuids s).1 = .ok found
  bulk : ∀ notices s, ∃ reached, (c.sendBulk notices s).1 = .ok reached
  single : ∀ notice s, ∃ reached, (c.sendSingle notice s).1 = .ok reached

/-- Asked for a key, the rule store always finds a rule. -/
def Knows (key : String) : Prop :=
  ∀ s, ∃ rule, (c.findRule key s).1 = .ok (some rule)

/-- Asked for a key, the rule store never finds a rule. -/
def Lacks (key : String) : Prop :=
  ∀ s, (c.findRule key s).1 = .ok none

/-- Asked for a key, the rule store has failed, or found no rule. -/
def Misses (key : String) (e : Failure) : Prop :=
  ∃ s, (c.findRule key s).1 = .error e ∨
    (c.findRule key s).1 = .ok none ∧ e = .unknownRule key

/-- The cache hands out a stream. -/
def Hands (stream : List Read) : Prop :=
  ∃ s, (c.openStream s).1 = .ok stream

/-- The cache hands out a stream that is read to its end and gives some issues. -/
def Gives (issues : List Issue) : Prop :=
  ∃ stream, c.Hands stream ∧ breakage stream = none ∧ readable stream = issues

/-- Users by uuid, as the user store answers; without uuids it is not asked. -/
def Resolves (uuids : List String) (users : Keyed User) : Prop :=
  if uuids = [] then users = ∅
  else ∃ s found, (c.selectUsers uuids s).1 = .ok found ∧ users = User.byUuid found

/-- The notice of a changed issue, with the rule that the rule store answers, and with the last file
that has the key the issue names. -/
def Drafts (d : Desk) (i : Issue) (notice : Notice) : Prop :=
  ∃ s rule, (c.findRule i.ruleKey s).1 = .ok (some rule) ∧
    d.change i (some rule) (d.tree.fileNamed i.component) = .ok notice

/-- How many recipients a channel says to have reached. -/
def Reaches : Event → Nat → Prop
  | .sendBulk notices, reached => ∃ s, (c.sendBulk notices s).1 = .ok reached
  | .sendSingle notice, reached => ∃ s, (c.sendSingle notice s).1 = .ok reached
  | _, _ => False

/-! ## What shows -/

/-- The call that looks up users; without uuids there is none. -/
def lookups (uuids : List String) : List Event :=
  if uuids = [] then [] else [.selectUsers uuids]

variable {c} {issues : List Issue}

theorem Answers.readable_of_hands (h : c.Answers issues) {stream : List Read}
    (hs : c.Hands stream) : stream = issues.map .ok := by
  obtain ⟨s, hs⟩ := hs
  exact (Except.ok.inj ((h.stream s).symm.trans hs)).symm

/-- Collaborators that answer give their issues, and nothing else. -/
theorem Answers.gives (h : c.Answers issues) {issues' : List Issue} (hg : c.Gives issues') :
    issues' = issues := by
  obtain ⟨stream, hs, -, rfl⟩ := hg
  rw [h.readable_of_hands hs, readable_map_ok]

end Collaborators

/-- Notices handed to both channels: all of them by email, then each by the legacy channel. -/
def Run.handed (notices : List Notice) : List Event :=
  .sendBulk notices :: notices.map .sendSingle

namespace Counters

theorem addDeliveries_zero (counters : Counters) (k : NoticeKind) :
    counters.addDeliveries k 0 = counters := by
  cases k <;> rfl

theorem addDeliveries_add (counters : Counters) (k : NoticeKind) (m n : Nat) :
    (counters.addDeliveries k m).addDeliveries k n = counters.addDeliveries k (m + n) := by
  cases k <;> simp [addDeliveries, modify, Nat.add_assoc]

theorem addNotices_add (counters : Counters) (k : NoticeKind) (m n : Nat) :
    (counters.addNotices k m).addNotices k n = counters.addNotices k (m + n) := by
  cases k <;> simp [addNotices, modify, Nat.add_assoc]

theorem addNotices_addDeliveries (counters : Counters) (k : NoticeKind) (m n : Nat) :
    (counters.addNotices k m).addDeliveries k n = (counters.addDeliveries k n).addNotices k m := by
  cases k <;> rfl

end Counters

end IssueNotice
