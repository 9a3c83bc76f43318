import IssueNotice.Proofs.Run.Triple
import IssueNotice.Proofs.Run.Twin

/-!
# Ledgers

`Collaborators.withLedger` keeps a ledger over what collaborators hand out, take back and are
handed: one entry for each such call, with what the call answered. A run does not notice
(`execute_withLedger`), and its ledger has an entry for each of its acts that calls for one, in
order (`entered_execute`).

What a run does to its ledger is proved with the rules for its parts: `Ledger P` is the assertion
that the ledger has `P`, and the lemmas in its namespace say for each call what is entered.
-/

namespace IssueNotice

/-! ## Collaborators with a ledger -/

/-- A line of a ledger. -/
inductive Entry where
  /-- A stream was asked for, and handed out or refused. -/
  | openStream (handedOut : Bool)
  | closeStream
  /-- A session was asked for, and handed out or refused. -/
  | openSession (handedOut : Bool)
  | closeSession
  /-- Notices were handed to the email channel; how many recipients that reached, if any answer
  came. -/
  | sendBulk (notices : List Notice) (reached : Option Nat)
  /-- A notice was handed to the legacy channel. -/
  | sendSingle (notice : Notice) (reached : Option Nat)
  deriving DecidableEq

/-- The event that an entry is about; how much was read from a stream is not entered. -/
def Entry.event : Entry → Event
  | openStream _ => .openStream
  | closeStream => .closeStream 0
  | openSession _ => .openSession
  | closeSession => .closeSession
  | sendBulk notices _ => .sendBulk notices
  | sendSingle notice _ => .sendSingle notice

/-- The event of the entry for an event, if there is to be one. -/
def Event.entered : Event → Option Event
  | .openStream => some .openStream
  | .closeStream _ => some (.closeStream 0)
  | .openSession => some .openSession
  | .closeSession => some .closeSession
  | .sendBulk notices => some (.sendBulk notices)
  | .sendSingle notice => some (.sendSingle notice)
  | _ => none

/-- The events of the entries for some acts, in order. -/
def entered (acts : List Act) : List Event :=
  (acts.filterMap Act.event?).filterMap Event.entered

@[simp]
theorem entered_append (as bs : List Act) : entered (as ++ bs) = entered as ++ entered bs := by
  unfold entered
  rw [List.filterMap_append, List.filterMap_append]

/-- Answers as before and enters what the answer calls for. -/
def Answer.entering {σ α : Type} (answer : Answer σ α) (entries : Except Failure α → List Entry) :
    Answer (σ × List Entry) α := fun (s, ledger) =>
  let (result, s) := answer s
  (result, s, ledger ++ entries result)

/-- The same collaborators, with a ledger beside their state. -/
def Collaborators.withLedger {σ : Type} (c : Collaborators σ) :
    Collaborators (σ × List Entry) where
  hasSubscribers uuid kinds := (c.hasSubscribers uuid kinds).entering fun _ => []
  openStream := c.openStream.entering fun r => [.openStream r.isOk]
  closeStream s := (c.closeStream s.1, s.2 ++ [.closeStream])
  openSession := c.openSession.entering fun r => [.openSession r.isOk]
  selectUsers uuids := (c.selectUsers uuids).entering fun _ => []
  closeSession s := (c.closeSession s.1, s.2 ++ [.closeSession])
  findRule key := (c.findRule key).entering fun _ => []
  sendBulk notices := (c.sendBulk notices).entering fun r => [.sendBulk notices r.toOption]
  sendSingle notice := (c.sendSingle notice).entering fun r => [.sendSingle notice r.toOption]

namespace Run

variable {σ τ α β : Type}

theorem Answer.entering_alike (answer : Answer σ α) (entries : Except Failure α → List Entry) :
    AnswersAlike (fun s t => s.1 = t) (answer.entering entries) answer := by
  rintro ⟨s, ledger⟩ t rfl
  exact ⟨rfl, rfl⟩

theorem withLedger_alike (c : Collaborators σ) :
    CollaboratorsAlike (fun s t => s.1 = t) c.withLedger c where
  hasSubscribers _ _ := Answer.entering_alike _ _
  openStream := Answer.entering_alike _ _
  closeStream _ _ h := congrArg c.closeStream h
  openSession := Answer.entering_alike _ _
  selectUsers _ := Answer.entering_alike _ _
  closeSession _ _ h := congrArg c.closeSession h
  findRule _ := Answer.entering_alike _ _
  sendBulk _ := Answer.entering_alike _ _
  sendSingle _ := Answer.entering_alike _ _

/-- **A run does not notice the ledger.** -/
theorem execute_withLedger (c : Collaborators σ) (r : Request) (s : σ) (ledger : List Entry) :
    OutcomeAlike (fun s t => s.1 = t) (execute c.withLedger r (s, ledger)) (execute c r s) :=
  execute_alike (withLedger_alike c) r rfl

/-! ## Entries and acts -/

/-- A computation enters what its acts call for. -/
def Keeps (x : Traced (σ × List Entry) α) : Prop :=
  ∀ s, ∃ added, (x s).state.2 = s.2 ++ added ∧ entered (x s).acts = added.map Entry.event

section Keeps

variable {x : Traced (σ × List Entry) α}

theorem Keeps.andFinally {last : Traced (σ × List Entry) Unit} (hx : Keeps x) (hl : Keeps last) :
    Keeps (x.andFinally last) := by
  intro s
  obtain ⟨added, hadded, hacts⟩ := hx s
  obtain ⟨more, hmore, hacts'⟩ := hl (x s).state
  refine ⟨added ++ more, ?_, ?_⟩
  · rw [← List.append_assoc, ← hadded]
    exact hmore
  · rw [List.map_append, ← hacts, ← hacts', ← entered_append]
    rfl

theorem Keeps.bind {f : α → Traced (σ × List Entry) β} (hx : Keeps x) (hf : ∀ a, Keeps (f a)) :
    Keeps (x >>= f) := by
  intro s
  obtain ⟨added, hadded, hacts⟩ := hx s
  cases hr : (x s).result with
  | error e =>
    rw [Traced.bind_of_error hr]
    exact ⟨added, hadded, hacts⟩
  | ok a =>
    obtain ⟨more, hmore, hacts'⟩ := hf a (x s).state
    rw [Traced.bind_of_ok hr]
    refine ⟨added ++ more, ?_, ?_⟩
    · rw [← List.append_assoc, ← hadded, hmore]
    · rw [List.map_append, ← hacts, ← hacts', entered_append]

theorem Keeps.onFailure {handler : Failure → Traced (σ × List Entry) Unit} (hx : Keeps x)
    (hh : ∀ e, Keeps (handler e)) : Keeps (x.onFailure handler) := by
  intro s
  cases hr : (x s).result with
  | ok a =>
    rw [Traced.onFailure_of_ok hr]
    exact hx s
  | error e =>
    rw [Traced.onFailure_of_error hr]
    exact hx.andFinally (hh e) s

/-- Every part of a run enters what its acts call for. -/
theorem Twin.keeps {c : Collaborators σ} {c' : Collaborators τ} {y : Traced τ α}
    {x : Traced (σ × List Entry) α} (h : Twin c.withLedger c' x y) : Keeps x := by
  induction h with
  | bind _ _ ihx ihf => exact ihx.bind ihf
  | onFailure _ _ ihx ihf => exact ihx.onFailure ihf
  | andFinally _ _ ihx ihl => exact ihx.andFinally ihl
  | note he =>
    refine fun s => ⟨[], (List.append_nil _).symm, ?_⟩
    change entered [.event _] = []
    unfold Event.isRemark at he
    split at he <;> first | rfl | exact absurd he Bool.false_ne_true
  | pure a => exact fun s => ⟨[], (List.append_nil _).symm, rfl⟩
  | fail e => exact fun s => ⟨[], (List.append_nil _).symm, rfl⟩
  | read => exact fun s => ⟨[], (List.append_nil _).symm, rfl⟩
  | _ => exact fun s => ⟨_, rfl, rfl⟩

end Keeps

section Execute

variable (c : Collaborators σ) (r : Request) (s : σ)

/-- What is told at the end of a run is not entered. -/
theorem entered_closing (result : Except Failure Response) : entered (closing result) = [] := by
  cases result <;> rfl

/-- **The ledger of a run has an entry for each of its acts that calls for one**, in order. -/
theorem entered_execute : entered (execute c.withLedger r (s, [])).acts =
    (execute c.withLedger r (s, [])).state.2.map Entry.event := by
  cases hs : r.analysis.branch.isSilent with
  | true =>
    rw [execute_eq_skip _ hs]
    rfl
  | false =>
    obtain ⟨added, hadded, hacts⟩ := (sendIfWanted_twin c.withLedger c.withLedger r).keeps (s, [])
    rw [execute_eq_finish _ hs, finish_apply, entered_append, entered_closing, List.append_nil,
      hacts, hadded, List.nil_append]

/-- A run is its parts, in which no failure is told, and an end for which nothing is entered. -/
theorem exists_parts : ∃ parts last, (execute c r s).acts = parts ++ last ∧
    (∀ a ∈ parts, ∀ text, a ≠ .event (.failed text)) ∧ entered last = [] := by
  cases hs : r.analysis.branch.isSilent with
  | true =>
    rw [execute_eq_skip _ hs]
    refine ⟨_, [], (List.append_nil _).symm, fun a ha => ?_, rfl⟩
    rw [List.mem_singleton.mp ha]
    simp
  | false =>
    rw [execute_eq_finish c hs, finish_apply]
    refine ⟨_, _, rfl, fun a ha text h => ?_, entered_closing _⟩
    have hpart := (sendIfWanted_twin c c r).never_parting s a ha
    rw [h] at hpart
    exact Bool.false_ne_true hpart.symm

/-- **That a run failed is told behind everything that is entered.** -/
theorem entered_before_failed {before after : List Act} {text : String}
    (h : (execute c r s).acts = before ++ .event (.failed text) :: after) :
    entered before = entered (execute c r s).acts := by
  obtain ⟨parts, last, hacts, hparts, hlast⟩ := exists_parts c r s
  rw [hacts] at h ⊢
  rcases List.append_eq_append_iff.mp h with ⟨more, rfl, hmore⟩ | ⟨more, rfl, hmore⟩
  · rw [hmore, entered_append] at hlast
    rw [entered_append, entered_append, hmore, entered_append, (List.append_eq_nil_iff.mp hlast).1,
      (List.append_eq_nil_iff.mp hlast).2]
    rfl
  · cases more with
    | nil => rw [List.append_nil, entered_append, hlast, List.append_nil]
    | cons a more =>
      obtain ⟨rfl, -⟩ := List.cons.inj hmore
      exact absurd rfl (hparts _ (List.mem_append_right before List.mem_cons_self) text)

end Execute

/-! ## Triples over a ledger -/

/-- The ledger that was kept by then has a property. -/
def Ledger (P : List Entry → Prop) : Assertion (σ × List Entry) := fun _ s => P s.2

namespace Ledger

variable {P E : List Entry → Prop} {c : Collaborators σ}

/-- A call that is carried out, and what is entered for it. -/
theorem call {Q : α → List Entry → Prop} (e : Event) (answer : Answer σ α)
    (entries : Except Failure α → List Entry)
    (hok : ∀ a ledger, P ledger → Q a (ledger ++ entries (.ok a)))
    (herror : ∀ e ledger, P ledger → E (ledger ++ entries (.error e))) :
    Triple (Ledger P) (.call e (answer.entering entries)) (fun a => Ledger (Q a))
      fun _ => Ledger E := by
  have hledger : ∀ s,
      (answer.entering entries s).2.2 = s.2 ++ entries (answer.entering entries s).1 :=
    fun _ => rfl
  refine .call (fun _ s a hs ha => ?_) fun _ s f hs hf => ?_
  · unfold Ledger
    rw [hledger, ha]
    exact hok a s.2 hs
  · unfold Ledger
    rw [hledger, hf]
    exact herror f s.2 hs

/-- A call for which nothing is entered. -/
theorem silent (e : Event) (answer : Answer σ α) (hE : ∀ ledger, P ledger → E ledger) :
    Triple (Ledger P) (.call e (answer.entering fun _ => [])) (fun _ => Ledger P)
      fun _ => Ledger E :=
  call e answer (fun _ => []) (fun _ ledger h => by rwa [List.append_nil])
    fun _ ledger h => by rw [List.append_nil]; exact hE ledger h

/-- A stream is asked for. -/
theorem openStream {M : List Entry → Prop}
    (hopen : ∀ ledger, P ledger → M (ledger ++ [.openStream true]))
    (hrefused : ∀ ledger, P ledger → E (ledger ++ [.openStream false])) :
    Triple (Ledger P) (.call .openStream c.withLedger.openStream) (fun _ => Ledger M)
      fun _ => Ledger E :=
  call _ c.openStream (fun r => [.openStream r.isOk]) (fun _ => hopen) fun _ => hrefused

/-- Looking up users opens and closes one session, if any user is to be looked up. -/
theorem resolveUsers (uuids : List String) {Q : List Entry → Prop}
    (hskip : ∀ ledger, P ledger → Q ledger)
    (hrefused : ∀ ledger, P ledger → E (ledger ++ [.openSession false]))
    (hlooked : ∀ ledger, P ledger → Q (ledger ++ [.openSession true] ++ [.closeSession]))
    (hfailed : ∀ ledger, P ledger → E (ledger ++ [.openSession true] ++ [.closeSession])) :
    Triple (Ledger P) (c.withLedger.resolveUsers uuids)
      (fun users seen s => c.withLedger.Resolves uuids users ∧ Ledger Q seen s)
      fun _ => Ledger E := by
  -- the ledger of the open session, whether its query fails or not
  let M (ledger : List Entry) : Prop :=
    ∃ before, P before ∧ ledger = before ++ [.openSession true]
  unfold Collaborators.Resolves
  refine .resolveUsers (M := Ledger M) (fun he seen s h => ?_) (fun _ => ?_) fun he => ?_
  · rw [if_pos he]
    exact ⟨rfl, hskip s.2 h⟩
  · exact call _ c.openSession (fun r => [.openSession r.isOk]) (fun _ ledger h => ⟨ledger, h, rfl⟩)
      fun _ => hrefused
  · have hselect : Triple (Ledger M) (.call (.selectUsers uuids) (c.withLedger.selectUsers uuids))
        (fun _ => Ledger M) fun _ => Ledger M :=
      silent _ (c.selectUsers uuids) fun _ h => h
    have hfound : ∀ s found,
        (Traced.call (.selectUsers uuids) (c.withLedger.selectUsers uuids) s).result = .ok found →
          ∃ s, (c.withLedger.selectUsers uuids s).1 = .ok found := fun s _ hf => ⟨s, hf⟩
    refine (hselect.and_value hfound).mono (fun _ _ h => h) ?_ ?_
    · rintro found seen ⟨s, ledger⟩ ⟨⟨s', hf⟩, before, h, hm⟩
      obtain rfl : ledger = _ := hm
      rw [if_neg he]
      exact ⟨⟨s', found, hf, rfl⟩, hlooked before h⟩
    · rintro e seen ⟨s, ledger⟩ ⟨before, h, hm⟩
      obtain rfl : ledger = _ := hm
      exact hfailed before h

/-- Handing notices over enters them all at once and then each of them, in order. -/
theorem send_inOrder {kind : NoticeKind} {counted : Nat} {notices : List Notice}
    {counters : Counters} {I : List Notice → Counters → List Entry → Prop}
    (hbulk : ∀ n ledger, P ledger →
      I [] ((counters.addDeliveries kind n).addNotices kind counted)
        (ledger ++ [.sendBulk notices (some n)]))
    (hbulkFailed : ∀ ledger, P ledger → E (ledger ++ [.sendBulk notices none]))
    (hsingle : ∀ front notice back, notices = front ++ notice :: back → ∀ n counters ledger,
      I front counters ledger → I (front ++ [notice]) (counters.addDeliveries kind n)
        (ledger ++ [.sendSingle notice (some n)]))
    (hsingleFailed : ∀ front notice back, notices = front ++ notice :: back → ∀ counters ledger,
      I front counters ledger → E (ledger ++ [.sendSingle notice none])) :
    Triple (Ledger P) (Run.send c.withLedger kind counted notices counters)
      (fun counters => Ledger (I notices counters)) fun _ => Ledger E :=
  .send_inOrder (I := fun front counters => Ledger (I front counters))
    (call _ (c.sendBulk notices) (fun r => [.sendBulk notices r.toOption]) hbulk
      fun _ => hbulkFailed)
    fun front notice back hn counters =>
      call _ (c.sendSingle notice) (fun r => [.sendSingle notice r.toOption])
        (fun n => hsingle front notice back hn n counters)
        fun _ => hsingleFailed front notice back hn counters

/-- Handing notices over, where their order does not matter. -/
theorem send {kind : NoticeKind} {counted : Nat} {notices : List Notice} {counters : Counters}
    {I : Counters → List Entry → Prop}
    (hbulk : ∀ n ledger, P ledger →
      I ((counters.addDeliveries kind n).addNotices kind counted)
        (ledger ++ [.sendBulk notices (some n)]))
    (hbulkFailed : ∀ ledger, P ledger → E (ledger ++ [.sendBulk notices none]))
    (hsingle : ∀ notice ∈ notices, ∀ n counters ledger, I counters ledger →
      I (counters.addDeliveries kind n) (ledger ++ [.sendSingle notice (some n)]))
    (hsingleFailed : ∀ notice ∈ notices, ∀ counters ledger, I counters ledger →
      E (ledger ++ [.sendSingle notice none])) :
    Triple (Ledger P) (Run.send c.withLedger kind counted notices counters)
      (fun counters => Ledger (I counters)) fun _ => Ledger E :=
  send_inOrder (I := fun _ => I) hbulk hbulkFailed
    (fun front notice _ hn =>
      hsingle notice (hn ▸ List.mem_append_right front List.mem_cons_self))
    fun front notice _ hn =>
      hsingleFailed notice (hn ▸ List.mem_append_right front List.mem_cons_self)

/-- Announcing a chunk enters what handing its notices over does: there is a change notice for each
issue. -/
theorem announceChunk {d : Desk} {q : Counters × Nat} {chunk : List Issue}
    {Q : Counters → List Entry → Prop} (hE : ∀ ledger, P ledger → E ledger)
    (hsend : ∀ notices, List.Forall₂ (c.withLedger.Drafts d) chunk notices →
      notices.length = chunk.length → (∀ n ∈ notices, n.kind = .issueChanges) →
      Triple (Ledger P) (Run.send c.withLedger .issueChanges 1 notices q.1)
        (fun counters => Ledger (Q counters)) fun _ => Ledger E) :
    Triple (Ledger P) (Run.announceChunk c.withLedger d q chunk) (fun q' => Ledger (Q q'.1))
      fun _ => Ledger E := by
  have hfind : ∀ i : Issue, Triple (Ledger P)
      (.call (.findRule i.ruleKey) (c.withLedger.findRule i.ruleKey)) (fun _ => Ledger P)
      fun _ => Ledger E :=
    fun i => silent _ (c.findRule i.ruleKey) hE
  refine .announceChunk (fun i _ => .draftChange ((hfind i).post fun rule _ s h => ?_))
    (fun _ _ _ _ h => h) fun notices hd => hsend notices hd hd.length_eq.symm ?_
  · cases rule with
    | some rule => exact h
    | none => exact hE s.2 h
  · refine forall_mem_of_forall₂ hd fun i n hn => ?_
    obtain ⟨s, rule, -, hchange⟩ := hn
    exact Desk.kind_of_change hchange

/-- Asking for subscribers enters nothing, and without any a run ends there. -/
theorem sendIfWanted (r : Request) {Q : Response → List Entry → Prop}
    (hsend : Triple (Ledger P) (Run.sendAll c.withLedger r)
      (fun counters => Ledger (Q { ending := .completed, counters })) fun _ => Ledger E)
    (hskip : ∀ ledger, P ledger → Q { ending := .noSubscribers } ledger)
    (hfailed : ∀ ledger, P ledger → E ledger) :
    Triple (Ledger P) (Run.sendIfWanted c.withLedger r) (fun response => Ledger (Q response))
      fun _ => Ledger E :=
  .sendIfWanted (silent _ (c.hasSubscribers r.analysis.projectUuid NoticeKind.all) hfailed) hsend
    fun _ s h => hskip s.2 h

end Ledger

end Run

end IssueNotice
