import IssueNotice.Proofs.Run.Holding
import IssueNotice.Proofs.Run.Recipients

/-!
# Runs one after the other

A store stays in use from run to run: its outbox grows, and its meters go on counting. `Store.rerun`
runs one request a number of times over one store, and `rerun_repeats` says that the runs do not
influence each other. Each does and answers what a run over the untouched store does and answers,
whether that fails or not, and what they leave behind is what one run leaves behind, as many times.

All that a run does to a store is in its ledger (`Usage.enter`), and the ledger is the same from
wherever the run starts (`Store.replayed_alike`). It is disciplined, so that nothing is taken back
that the run was not handed out, and a run adds to a usage what it makes of none (`execute_add`).
-/

namespace IssueNotice

namespace Meter

/-- What was handed out and is held by two parties. -/
def add (a b : Meter) : Meter where
  opened := a.opened + b.opened
  held := a.held + b.held

/-- The second party takes back what it holds. -/
theorem add_release (a : Meter) {b : Meter} (h : 0 < b.held) :
    (a.add b).release = a.add b.release := by
  unfold add release
  simp only [mk.injEq, true_and]
  omega

end Meter

/-- A beginning of a disciplined ledger is disciplined. -/
theorem Disciplined.init {ledger : List Entry} {e : Entry} (h : Disciplined (ledger ++ [e])) :
    Disciplined ledger where
  sound before after hl := h.sound before (after ++ [e]) (by rw [hl, List.append_assoc])
  fits before x after hl := h.fits before x (after ++ [e]) (by rw [hl, List.append_assoc]; rfl)

namespace Run

/-! ## Several runs -/

/-- The outcomes of a number of runs for one request, each over what the one before left behind. -/
def Store.rerun (st : Store) (r : Request) : Nat → Usage → List (Outcome Usage Response)
  | 0, _ => []
  | n + 1, u =>
    execute st.collaborators r u :: st.rerun r n (execute st.collaborators r u).state

/-- What a number of runs for one request leave behind. -/
def Store.usageAfter (st : Store) (r : Request) : Nat → Usage → Usage
  | 0, u => u
  | n + 1, u => st.usageAfter r n (execute st.collaborators r u).state

/-! ## Usage and ledger -/

namespace Usage

/-- What a ledger entry says was done to a store. -/
def enter (m : Messaging) (u : Usage) (e : Entry) : Usage where
  streams :=
    match e with
    | .openStream true => u.streams.acquire
    | .closeStream => u.streams.release
    | _ => u.streams
  sessions :=
    match e with
    | .openSession true => u.sessions.acquire
    | .closeSession => u.sessions.release
    | _ => u.sessions
  outbox := u.outbox ++ m.filed e

/-- What a whole ledger says was done. -/
def replay (m : Messaging) (u : Usage) (ledger : List Entry) : Usage := ledger.foldl (enter m) u

/-- One usage and then another. -/
def add (u v : Usage) : Usage where
  streams := u.streams.add v.streams
  sessions := u.sessions.add v.sessions
  outbox := u.outbox ++ v.outbox

variable (m : Messaging)

theorem replay_append (u : Usage) (ledger ledger' : List Entry) :
    replay m u (ledger ++ ledger') = replay m (replay m u ledger) ledger' :=
  List.foldl_append

@[simp]
theorem replay_singleton (u : Usage) (e : Entry) : replay m u [e] = u.enter m e := rfl

/-- Behind another usage an entry does the same, if what it takes back is held in this one. -/
theorem add_enter (u : Usage) {v : Usage} {e : Entry}
    (hstream : e = .closeStream → 0 < v.streams.held)
    (hsession : e = .closeSession → 0 < v.sessions.held) :
    (u.add v).enter m e = u.add (v.enter m e) := by
  have hbox : u.outbox ++ v.outbox ++ m.filed e = u.outbox ++ (v.outbox ++ m.filed e) :=
    Array.toList_inj.mp (by simp)
  unfold enter
  simp only [add, hbox, mk.injEq, and_true]
  cases e with
  | closeStream => exact ⟨Meter.add_release _ (hstream rfl), rfl⟩
  | closeSession => exact ⟨rfl, Meter.add_release _ (hsession rfl)⟩
  | openStream handedOut | openSession handedOut => cases handedOut <;> exact ⟨rfl, rfl⟩
  | sendBulk | sendSingle => exact ⟨rfl, rfl⟩

/-- What is held is what was handed out and not given back. -/
theorem held_replay {ledger : List Entry} (h : Disciplined ledger) :
    (replay m {} ledger).streams.held + (balance ledger).streamsBack =
        (balance ledger).streamsOut ∧
      (replay m {} ledger).sessions.held + (balance ledger).sessionsBack =
        (balance ledger).sessionsOut := by
  induction ledger using List.reverseRecOn with
  | nil => exact ⟨rfl, rfl⟩
  | append_singleton ledger e ih =>
    obtain ⟨hstreams, hsessions⟩ := ih h.init
    have hsound := h.sound _ [] (List.append_nil _).symm
    have hstreamsBack := hsound.streams
    have hsessionsBack := hsound.sessions
    rw [balance_snoc] at hstreamsBack hsessionsBack ⊢
    rw [replay_append, replay_singleton]
    cases e with
    | openStream handedOut | openSession handedOut =>
      cases handedOut <;> simp [enter, Balance.enter, Meter.acquire] at * <;> omega
    | closeStream | closeSession =>
      simp only [enter, Balance.enter, Meter.release] at *
      omega
    | sendBulk | sendSingle => exact ⟨hstreams, hsessions⟩

/-- **A disciplined ledger adds to a usage what it makes of none.** -/
theorem replay_eq_add (u : Usage) {ledger : List Entry} (h : Disciplined ledger) :
    replay m u ledger = u.add (replay m {} ledger) := by
  induction ledger using List.reverseRecOn with
  | nil =>
    have hbox : u.outbox ++ #[] = u.outbox := Array.toList_inj.mp (by simp)
    change u = ⟨_, _, u.outbox ++ #[]⟩
    rw [hbox]
    rfl
  | append_singleton ledger e ih =>
    obtain ⟨hstreams, hsessions⟩ := held_replay m h.init
    have hsound := h.sound _ [] (List.append_nil _).symm
    rw [balance_snoc] at hsound
    rw [replay_append, ih h.init, replay_append, replay_singleton, replay_singleton]
    refine add_enter m u ?_ ?_
    · rintro rfl
      have := hsound.streams
      simp only [Balance.enter] at this
      omega
    · rintro rfl
      have := hsound.sessions
      simp only [Balance.enter] at this
      omega

end Usage

/-! ## A run over another usage -/

/-- Two usages, each with the ledger by which it came from a usage before; the ledgers are one. -/
structure Replayed (m : Messaging) (u v : Usage) (s t : Usage × List Entry) : Prop where
  ledger : s.2 = t.2
  left : s.1 = u.replay m s.2
  right : t.1 = v.replay m t.2

section Replayed

variable {m : Messaging} {u v : Usage}

/-- An answer that does not depend on the usage, and changes it as is entered. -/
theorem Replayed.alike {α : Type} {answer : Answer Usage α}
    {entries : Except Failure α → List Entry} (hreply : ∀ s t, (answer s).1 = (answer t).1)
    (henter : ∀ s, (answer s).2 = s.replay m (entries (answer s).1)) :
    AnswersAlike (Replayed m u v) (answer.entering entries) (answer.entering entries) := by
  have hstep : ∀ (s w : Usage) ledger, s = w.replay m ledger →
      (answer s).2 = w.replay m (ledger ++ entries (answer s).1) := by
    rintro _ w ledger rfl
    rw [Usage.replay_append, ← henter]
  rintro ⟨s, ledger⟩ ⟨t, _⟩ ⟨rfl, hs, ht⟩
  refine ⟨hreply s t, ?_, hstep s u ledger hs, hstep t v ledger ht⟩
  exact congrArg (fun r => ledger ++ entries r) (hreply s t)

theorem Replayed.release {s t : Usage × List Entry} (h : Replayed m u v s t) (e : Entry) :
    Replayed m u v (s.1.enter m e, s.2 ++ [e]) (t.1.enter m e, t.2 ++ [e]) where
  ledger := by rw [h.ledger]
  left := by
    rw [h.left, Usage.replay_append]
    rfl
  right := by
    rw [h.right, Usage.replay_append]
    rfl

/-- The ledger has all that is done to a store, and what is done depends on nothing else. -/
theorem Store.replayed_alike (st : Store) (u v : Usage) :
    CollaboratorsAlike (Replayed st.messaging u v) st.collaborators.withLedger
      st.collaborators.withLedger where
  hasSubscribers _ _ := Replayed.alike (fun _ _ => rfl) fun _ => rfl
  openStream := Replayed.alike (fun _ _ => rfl) fun s => by
    simp [Store.collaborators, Except.isOk, Except.toBool, Usage.enter, Messaging.filed]
  closeStream _ _ h := by
    simpa [Usage.enter, Messaging.filed, Store.collaborators, Collaborators.withLedger] using
      h.release .closeStream
  openSession := Replayed.alike (fun _ _ => rfl) fun _ => by
    simp [Store.collaborators, Except.isOk, Except.toBool, Usage.enter, Messaging.filed]
  selectUsers _ := Replayed.alike (fun _ _ => rfl) fun _ => rfl
  closeSession _ _ h := by
    simpa [Usage.enter, Messaging.filed, Store.collaborators, Collaborators.withLedger] using
      h.release .closeSession
  findRule _ := Replayed.alike (fun _ _ => rfl) fun _ => rfl
  sendBulk notices := Replayed.alike (fun _ _ => rfl) fun _ => rfl
  sendSingle notice := Replayed.alike (fun _ _ => rfl) fun _ => rfl

end Replayed

/-- **A run over another usage does the same**, and adds what a run adds to none. -/
theorem execute_add (st : Store) (r : Request) (u : Usage) :
    let one := execute st.collaborators r {}
    let other := execute st.collaborators r u
    other.acts = one.acts ∧ other.result = one.result ∧ other.state = u.add one.state ∧
      one.state.streams.held = 0 ∧ one.state.sessions.held = 0 := by
  intro one other
  have hone := execute_withLedger st.collaborators r {} []
  have hother := execute_withLedger st.collaborators r u []
  have halike := execute_alike (st.replayed_alike u {}) r (s := (u, [])) (t := ({}, []))
    ⟨rfl, rfl, rfl⟩
  obtain ⟨hdisciplined, hclosed⟩ := released_execute st.collaborators r {}
  obtain ⟨hledger, hleft, hright⟩ := halike.state
  rw [hledger] at hleft
  obtain ⟨hstreams, hsessions⟩ := Usage.held_replay st.messaging hdisciplined
  rw [← hright, hone.state] at hstreams hsessions
  refine ⟨?_, ?_, ?_, ?_, ?_⟩
  · rw [← hother.acts, halike.acts, hone.acts]
  · rw [← hother.result, halike.result, hone.result]
  · rw [← hother.state, hleft, Usage.replay_eq_add _ _ hdisciplined, ← hright, hone.state]
  · rw [hclosed.streams] at hstreams
    exact Nat.add_eq_right.mp hstreams
  · rw [hclosed.sessions] at hsessions
    exact Nat.add_eq_right.mp hsessions

/-! ## Runs in a row -/

section Rerun

variable (st : Store) (r : Request)

theorem map_rerun (n : Nat) (u : Usage) :
    (st.rerun r n u).map (fun o => (o.acts, o.result)) = List.replicate n
      ((execute st.collaborators r {}).acts, (execute st.collaborators r {}).result) := by
  induction n generalizing u with
  | zero => rfl
  | succ n ih =>
    obtain ⟨hacts, hresult, -⟩ := execute_add st r u
    rw [Store.rerun, List.map_cons, ih, hacts, hresult, List.replicate_succ]

/-- What is held does not change from run to run. -/
theorem held_of_mem_rerun {n : Nat} {u : Usage} {o : Outcome Usage Response}
    (h : o ∈ st.rerun r n u) :
    o.state.streams.held = u.streams.held ∧ o.state.sessions.held = u.sessions.held := by
  induction n generalizing u with
  | zero => exact absurd h List.not_mem_nil
  | succ n ih =>
    obtain ⟨-, -, hstate, hstreams, hsessions⟩ := execute_add st r u
    have hone : (execute st.collaborators r u).state.streams.held = u.streams.held ∧
        (execute st.collaborators r u).state.sessions.held = u.sessions.held := by
      simp [hstate, Usage.add, Meter.add, hstreams, hsessions]
    rcases List.mem_cons.mp h with rfl | h
    · exact hone
    · rw [← hone.1, ← hone.2]
      exact ih h

/-- What the runs leave behind is what one leaves behind, as many times. -/
theorem usageAfter_eq (n : Nat) (u : Usage) :
    let one := (execute st.collaborators r {}).state
    let after := st.usageAfter r n u
    after.outbox.toList = u.outbox.toList ++ (List.replicate n one.outbox.toList).flatten ∧
      after.streams.opened = u.streams.opened + n * one.streams.opened ∧
      after.sessions.opened = u.sessions.opened + n * one.sessions.opened := by
  intro one after
  induction n generalizing u with
  | zero => simp [after, Store.usageAfter]
  | succ n ih =>
    obtain ⟨-, -, hstate, -⟩ := execute_add st r u
    have hafter : after = st.usageAfter r n (u.add one) := by
      rw [← hstate]
      rfl
    obtain ⟨houtbox, hstreams, hsessions⟩ := ih (u.add one)
    rw [hafter]
    refine ⟨?_, ?_, ?_⟩
    · rw [houtbox, List.replicate_succ, List.flatten_cons, ← List.append_assoc]
      exact congrArg (· ++ _) Array.toList_append
    · rw [hstreams, Nat.succ_mul, Nat.add_comm (n * _), ← Nat.add_assoc]
      rfl
    · rw [hsessions, Nat.succ_mul, Nat.add_comm (n * _), ← Nat.add_assoc]
      rfl

end Rerun

/-- **Runs do not influence each other.** However often a request is run over one store, each run
does, reports and answers what a run over the untouched store does, one that fails on an unknown
rule included. After each as many streams and sessions are held as before all, and in the end the
outbox has grown by what one run delivers, and the meters have gone on by what one run opens, as
many times as there were runs. -/
theorem rerun_repeats (st : Store) (r : Request) (n : Nat) (u : Usage) :
    let one := execute st.collaborators r {}
    let after := st.usageAfter r n u
    (st.rerun r n u).map (fun o => (o.acts, o.result)) =
        List.replicate n (one.acts, one.result) ∧
      (∀ o ∈ st.rerun r n u, o.state.streams.held = u.streams.held ∧
        o.state.sessions.held = u.sessions.held) ∧
      after.outbox.toList =
        u.outbox.toList ++ (List.replicate n one.state.outbox.toList).flatten ∧
      after.streams.opened = u.streams.opened + n * one.state.streams.opened ∧
      after.sessions.opened = u.sessions.opened + n * one.state.sessions.opened := by
  intro one after
  exact ⟨map_rerun st r n u, fun _ ho => held_of_mem_rerun st r ho, usageAfter_eq st r n u⟩

end Run

end IssueNotice
