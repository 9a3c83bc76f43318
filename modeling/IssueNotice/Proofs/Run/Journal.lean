import IssueNotice.Proofs.Run.Cut
import IssueNotice.Proofs.Run.Twin

/-!
# Journals

`Collaborators.withJournal` keeps a journal of the calls of collaborators that may fail, each with
its answer. A run does not notice (`execute_withJournal`).

A computation is `Honest` if its journal has the calls among its acts, and if it fails where one of
them does and nowhere else. There is a rule for each way in which the parts of a run are put
together. Failing for no other reason is not kept by all of them, and so the parts that may fail
without a failing answer are taken together with the call before them: a stream is opened and read,
a rule is looked up and used.

`sendIfWanted_honest` is the result: nothing that a collaborator answers makes a run fail, except
for a failure, and none is passed over.
-/

namespace IssueNotice

/-! ## Collaborators with a journal -/

/-- A call that may fail, with its answer. -/
inductive Answered where
  | hasSubscribers (projectUuid : String) (kinds : List NoticeKind) (answer : Except Failure Bool)
  | openStream (answer : Except Failure (List Read))
  | openSession (answer : Except Failure Unit)
  | selectUsers (uuids : List String) (answer : Except Failure (List User))
  | findRule (key : String) (answer : Except Failure (Option Rule))
  | sendBulk (notices : List Notice) (answer : Except Failure Nat)
  | sendSingle (notice : Notice) (answer : Except Failure Nat)

namespace Answered

/-- The event of a call. -/
def event : Answered → Event
  | hasSubscribers uuid kinds _ => .askSubscribers uuid kinds
  | openStream _ => .openStream
  | openSession _ => .openSession
  | selectUsers uuids _ => .selectUsers uuids
  | findRule key _ => .findRule key
  | sendBulk notices _ => .sendBulk notices
  | sendSingle notice _ => .sendSingle notice

/-- Whether a call failed. One for a stream also fails with a stream that breaks, and one for a rule
if there is none. -/
def failed : Answered → Bool
  | hasSubscribers _ _ answer => !answer.isOk
  | openStream (.ok stream) => (Run.breakage stream).isSome
  | openStream (.error _) => true
  | openSession answer => !answer.isOk
  | selectUsers _ answer => !answer.isOk
  | findRule _ (.ok rule) => rule.isNone
  | findRule _ (.error _) => true
  | sendBulk _ answer => !answer.isOk
  | sendSingle _ answer => !answer.isOk

end Answered

/-- Answers as before and notes the answer. -/
def Answer.noting {σ α : Type} (answer : Answer σ α) (entry : Except Failure α → Answered) :
    Answer (σ × List Answered) α := fun (s, journal) =>
  let (result, s) := answer s
  (result, s, journal ++ [entry result])

/-- The same collaborators, with a journal beside their state. -/
def Collaborators.withJournal {σ : Type} (c : Collaborators σ) :
    Collaborators (σ × List Answered) where
  hasSubscribers uuid kinds := (c.hasSubscribers uuid kinds).noting (.hasSubscribers uuid kinds)
  openStream := c.openStream.noting .openStream
  closeStream s := (c.closeStream s.1, s.2)
  openSession := c.openSession.noting .openSession
  selectUsers uuids := (c.selectUsers uuids).noting (.selectUsers uuids)
  closeSession s := (c.closeSession s.1, s.2)
  findRule key := (c.findRule key).noting (.findRule key)
  sendBulk notices := (c.sendBulk notices).noting (.sendBulk notices)
  sendSingle notice := (c.sendSingle notice).noting (.sendSingle notice)

namespace Run

variable {σ α β : Type}

theorem Answer.noting_alike (answer : Answer σ α) (entry : Except Failure α → Answered) :
    AnswersAlike (fun s t => s.1 = t) (answer.noting entry) answer := by
  rintro ⟨s, journal⟩ t rfl
  exact ⟨rfl, rfl⟩

theorem withJournal_alike (c : Collaborators σ) :
    CollaboratorsAlike (fun s t => s.1 = t) c.withJournal c where
  hasSubscribers _ _ := Answer.noting_alike _ _
  openStream := Answer.noting_alike _ _
  closeStream _ _ h := congrArg c.closeStream h
  openSession := Answer.noting_alike _ _
  selectUsers _ := Answer.noting_alike _ _
  closeSession _ _ h := congrArg c.closeSession h
  findRule _ := Answer.noting_alike _ _
  sendBulk _ := Answer.noting_alike _ _
  sendSingle _ := Answer.noting_alike _ _

/-- **A run does not notice the journal.** -/
theorem execute_withJournal (c : Collaborators σ) (r : Request) (s : σ) (journal : List Answered) :
    OutcomeAlike (fun s t => s.1 = t) (execute c.withJournal r (s, journal)) (execute c r s) :=
  execute_alike (withJournal_alike c) r rfl

/-! ## Honest computations -/

/-- The calls among some acts that may fail, in order. -/
def asked (acts : List Act) : List Event :=
  (calls acts).filter fun e => e.fallible.isSome

@[simp]
theorem asked_append (as bs : List Act) : asked (as ++ bs) = asked as ++ asked bs := by
  unfold asked
  rw [calls_append, List.filter_append]

/-- From a journal on, an outcome added some calls; these are the ones that it made, and it failed
iff one of them did. -/
structure Told (journal : List Answered) (o : Outcome (σ × List Answered) α)
    (added : List Answered) : Prop where
  journal : o.state.2 = journal ++ added
  asked : added.map Answered.event = asked o.acts
  ok : (∃ a, o.result = .ok a) ↔ ∀ a ∈ added, a.failed = false

/-- From wherever it starts, a computation fails iff one of its calls does. -/
def Honest (x : Traced (σ × List Answered) α) : Prop :=
  ∀ s, ∃ added, Told s.2 (x s) added

namespace Honest

variable {x : Traced (σ × List Answered) α}

theorem pure (a : α) : Honest (pure a : Traced (σ × List Answered) α) := fun _ =>
  ⟨[], (List.append_nil _).symm, rfl, iff_of_true ⟨a, rfl⟩ (List.forall_mem_nil _)⟩

theorem note {e : Event} (he : asked [.event e] = []) :
    Honest (.note e : Traced (σ × List Answered) Unit) := fun _ =>
  ⟨[], (List.append_nil _).symm, he.symm, iff_of_true ⟨(), rfl⟩ (List.forall_mem_nil _)⟩

theorem call {answer : Answer σ α} {entry : Except Failure α → Answered} {e : Event}
    (he : ∀ r, asked [.event e] = [(entry r).event]) (hf : ∀ r, (entry r).failed = !r.isOk) :
    Honest (.call e (answer.noting entry)) := by
  refine fun s => ⟨[entry (answer s.1).1], rfl, (he _).symm, ?_⟩
  rw [List.forall_mem_singleton, hf]
  change (∃ a, (answer s.1).1 = .ok a) ↔ _
  cases (answer s.1).1 <;> simp [Except.isOk, Except.toBool]

theorem bind {f : α → Traced (σ × List Answered) β} (hx : Honest x) (hf : ∀ a, Honest (f a)) :
    Honest (x >>= f) := by
  intro s
  obtain ⟨added, hadded⟩ := hx s
  cases hr : (x s).result with
  | error e =>
    rw [Traced.bind_of_error hr]
    refine ⟨added, hadded.journal, hadded.asked, ?_⟩
    rw [← hadded.ok, hr]
    simp
  | ok a =>
    obtain ⟨more, hmore⟩ := hf a (x s).state
    rw [Traced.bind_of_ok hr]
    have hfine : ∀ a ∈ added, a.failed = false := hadded.ok.mp ⟨a, hr⟩
    refine ⟨added ++ more, ?_, ?_, ?_⟩
    · rw [hmore.journal, hadded.journal, List.append_assoc]
    · rw [List.map_append, hadded.asked, hmore.asked, asked_append]
    · rw [hmore.ok, List.forall_mem_append]
      exact (and_iff_right hfine).symm

/-- A call whose answer is checked fails with the call or with the check. -/
theorem call_ofExcept {answer : Answer σ α} {entry : Except Failure α → Answered} {e : Event}
    {check : α → Except Failure β} (he : ∀ r, asked [.event e] = [(entry r).event])
    (hf : ∀ r, (entry r).failed = !(r.bind check).isOk) :
    Honest (.call e (answer.noting entry) >>= fun a => Traced.ofExcept (check a)) := by
  intro s
  have hchecked : (Traced.call e (answer.noting entry) >>= fun a => Traced.ofExcept (check a)) s =
      ⟨[.event e], (answer s.1).1.bind check, (answer.noting entry s).2⟩ := by
    cases hr : (answer s.1).1 with
    | error e => exact Traced.bind_of_error hr _
    | ok a =>
      refine (Traced.bind_of_ok hr _).trans ?_
      change _ = Outcome.mk _ (check a) _
      cases check a <;> rfl
  rw [hchecked]
  refine ⟨[entry (answer s.1).1], rfl, (he _).symm, ?_⟩
  rw [List.forall_mem_singleton, hf]
  cases (answer s.1).1.bind check <;> simp [Except.isOk, Except.toBool]

theorem andFinally_release {e : Event} (he : e.isRelease) {g : σ → σ} (hx : Honest x) :
    Honest (x.andFinally (.release e fun s => (g s.1, s.2))) := by
  intro s
  obtain ⟨added, hadded⟩ := hx s
  refine ⟨added, hadded.journal, ?_, hadded.ok⟩
  rw [hadded.asked, asked, asked, Traced.calls_andFinally_release x he]

theorem fold {step : β → α → Traced (σ × List Answered) β} (h : ∀ b a, Honest (step b a)) (b : β)
    (xs : List α) : Honest (Traced.fold step b xs) := by
  induction xs generalizing b with
  | nil => exact .pure b
  | cons x rest ih => exact (h b x).bind ih

variable (c : Collaborators σ)

/-- Carrying a value through all issues fails with the call for a stream, with the stream that this
hands out, or with a step. -/
theorem foldIssues {step : β → Issue → Traced (σ × List Answered) β}
    (h : ∀ b i, Honest (step b i)) (b : β) : Honest (c.withJournal.foldIssues step b) := by
  intro s
  cases hopen : (c.openStream s.1).1 with
  | error e =>
    have hrefused : (c.withJournal.openStream s).1 = .error e := hopen
    have hstate : (c.withJournal.openStream s).2.2 =
        s.2 ++ [.openStream (c.openStream s.1).1] := rfl
    rw [foldIssues_refused step b hrefused]
    refine ⟨[.openStream (.error e)], ?_, rfl, ?_⟩
    · rw [hstate, hopen]
    · simp [Answered.failed, Except.isOk, Except.toBool]
  | ok stream =>
    have hhanded : (c.withJournal.openStream s).1 = .ok stream := hopen
    have hjournal : (c.withJournal.openStream s).2.2 =
        s.2 ++ [.openStream (c.openStream s.1).1] := rfl
    obtain ⟨hcalls, hresult, hstate⟩ := foldIssues_outcome step b hhanded
    obtain ⟨added, hadded⟩ := fold h b (readable stream) (c.withJournal.openStream s).2
    refine ⟨.openStream (.ok stream) :: added, ?_, ?_, ?_⟩
    · rw [hstate]
      change (Traced.fold step b (readable stream) _).state.2 = _
      rw [hadded.journal, hjournal, hopen, List.append_assoc, List.singleton_append]
    · rw [List.map_cons, hadded.asked, asked, asked, hcalls]
      rfl
    · rw [List.forall_mem_cons, ← hadded.ok, hresult]
      simp only [endOfReading_eq_ok, exists_and_left, Answered.failed, Option.isSome_eq_false_iff,
        Option.isNone_iff_eq_none]

/-- Looking users up without uuids makes no call. -/
theorem resolveUsers (uuids : List String) : Honest (c.withJournal.resolveUsers uuids) := by
  unfold Collaborators.resolveUsers
  by_cases he : uuids.isEmpty
  · simp only [if_pos he]
    exact .pure _
  · simp only [if_neg he]
    refine (call (fun _ => rfl) fun _ => rfl).bind fun _ => ?_
    refine (andFinally_release rfl ?_).bind fun _ => .pure _
    exact call (fun _ => rfl) fun _ => rfl

end Honest

/-! ## Scripts -/

section Scripts

variable {c : Collaborators σ}

/-- A change notice is drafted if its rule was found, and drafting it fails if not. -/
theorem draftChange_honest (d : Desk) (i : Issue) (file : Option Component) :
    Honest (draftChange c.withJournal d i file) :=
  .call_ofExcept (fun _ => rfl) fun r => by rcases r with _ | _ | _ <;> rfl

/-- **A script is honest**, whatever it is compared with. -/
theorem Script.honest {τ : Type} {c' : Collaborators τ} {streams : Bool}
    {x : Traced (σ × List Answered) α} {y : Traced τ α}
    (h : Script c.withJournal c' streams x y) : Honest x := by
  induction h with
  | pure a => exact .pure a
  | bind _ _ ihx ihf => exact ihx.bind ihf
  | @remark _ e he =>
    refine .note ?_
    cases e <;> first | rfl | cases he
  | foldIssues _ b ih => exact .foldIssues c ih b
  | resolveUsers uuids => exact .resolveUsers c uuids
  | draftChange d i file => exact draftChange_honest d i file
  | sendBulk notices => exact .call (fun _ => rfl) fun _ => rfl
  | sendSingle notice => exact .call (fun _ => rfl) fun _ => rfl

/-- **Behind the first gate a run fails iff one of its calls does.** -/
theorem sendIfWanted_honest (c : Collaborators σ) (r : Request) :
    Honest (sendIfWanted c.withJournal r) := by
  refine (Honest.call (fun _ => rfl) fun _ => rfl).bind fun wanted => ?_
  cases wanted with
  | true => exact (sendAll_script c.withJournal c.withJournal r).honest.bind fun _ => .pure _
  | false => exact (Honest.note rfl).bind fun _ => .pure _

end Scripts

end Run

end IssueNotice
