import IssueNotice.Proofs.Run.Ledger

/-!
# What a run holds

A run asks for streams of issues and for sessions with the user store, and has to give back what it
was handed. `balance` counts both sides of a ledger, and `Disciplined` says that at every moment a
run holds one thing at most and gives nothing back that it does not hold, that it asks for two
streams and two sessions at most, for a session only without a stream, and that it hands notices
over at the right time: full batches of change notices while the second stream is open, all others
after it was closed.

`execute_disciplined` is the result: whatever the collaborators do, and wherever they fail, the
ledger of a run is disciplined and closed, and a failure is told after that.
-/

namespace IssueNotice

/-! ## Both sides of a ledger -/

/-- What was asked for, handed out and given back. -/
structure Balance where
  /-- Streams asked for. -/
  traversals : Nat := 0
  streamsOut : Nat := 0
  streamsBack : Nat := 0
  /-- Sessions asked for. -/
  lookups : Nat := 0
  sessionsOut : Nat := 0
  sessionsBack : Nat := 0

namespace Balance

/-- Counts one more entry. -/
def enter (b : Balance) : Entry → Balance
  | .openStream handedOut => { b with
      traversals := b.traversals + 1, streamsOut := b.streamsOut + handedOut.toNat }
  | .closeStream => { b with streamsBack := b.streamsBack + 1 }
  | .openSession handedOut => { b with
      lookups := b.lookups + 1, sessionsOut := b.sessionsOut + handedOut.toNat }
  | .closeSession => { b with sessionsBack := b.sessionsBack + 1 }
  | .sendBulk _ _ | .sendSingle _ _ => b

/-- The number of open streams. -/
def openStreams (b : Balance) : Nat := b.streamsOut - b.streamsBack

/-- The number of open sessions. -/
def openSessions (b : Balance) : Nat := b.sessionsOut - b.sessionsBack

/-- Nothing is given back twice, one thing is held at most, and nothing is asked for more than
twice. -/
structure Sound (b : Balance) : Prop where
  streams : b.streamsBack ≤ b.streamsOut
  sessions : b.sessionsBack ≤ b.sessionsOut
  held : b.openStreams + b.openSessions ≤ 1
  traversals : b.traversals ≤ 2
  lookups : b.lookups ≤ 2

/-- What is open is what was handed out and not given back. -/
theorem Sound.of_open {b : Balance} (streams sessions : Nat)
    (hstreams : b.streamsBack + streams = b.streamsOut)
    (hsessions : b.sessionsBack + sessions = b.sessionsOut) (hheld : streams + sessions ≤ 1)
    (htraversals : b.traversals ≤ 2) (hlookups : b.lookups ≤ 2) : b.Sound where
  streams := hstreams ▸ Nat.le_add_right _ _
  sessions := hsessions ▸ Nat.le_add_right _ _
  held := by
    unfold openStreams openSessions
    omega
  traversals := htraversals
  lookups := hlookups

/-- Everything that was handed out was given back. -/
structure Closed (b : Balance) : Prop where
  streams : b.streamsBack = b.streamsOut
  sessions : b.sessionsBack = b.sessionsOut

end Balance

/-- Both sides of a ledger. -/
def balance (ledger : List Entry) : Balance := ledger.foldl Balance.enter {}

/-- A batch of change notices of the full size. -/
structure IsFullBatch (notices : List Notice) : Prop where
  length : notices.length = changeBatchSize
  kind : ∀ n ∈ notices, n.kind = .issueChanges

/-- It is time to hand notices over: the second stream was handed out, and it is open for a full
batch and closed for anything else. -/
structure Timely (b : Balance) (notices : List Notice) : Prop where
  second : b.traversals = 2 ∧ b.streamsOut = 2
  full : IsFullBatch notices → b.openStreams = 1
  rest : ¬ IsFullBatch notices → b.openStreams = 0

/-- The notices handed to the email channel last. -/
def lastBulk (ledger : List Entry) : List Notice :=
  ledger.foldl (fun last e => match e with | .sendBulk notices _ => notices | _ => last) []

/-- Whether an entry may come behind a ledger. -/
def Fits (ledger : List Entry) : Entry → Prop
  | .openSession _ => (balance ledger).openStreams = 0
  | .sendBulk notices _ => Timely (balance ledger) notices
  | .sendSingle notice _ =>
    notice ∈ lastBulk ledger ∧ Timely (balance ledger) (lastBulk ledger)
  | _ => True

/-- At every moment the balance was sound, and every entry came at its time. -/
structure Disciplined (ledger : List Entry) : Prop where
  sound : ∀ before after, ledger = before ++ after → (balance before).Sound
  fits : ∀ before e after, ledger = before ++ e :: after → Fits before e

variable {ledger : List Entry}

@[simp]
theorem balance_snoc (ledger : List Entry) (e : Entry) :
    balance (ledger ++ [e]) = (balance ledger).enter e := by
  unfold balance
  rw [List.foldl_append]
  rfl

theorem Disciplined.nil : Disciplined [] where
  sound before after h := by
    rw [(List.append_eq_nil_iff.mp h.symm).1]
    exact ⟨Nat.le_refl 0, Nat.le_refl 0, by decide, by decide, by decide⟩
  fits before e after h := by
    simp at h

theorem Disciplined.snoc (h : Disciplined ledger) {e : Entry}
    (hs : ((balance ledger).enter e).Sound) (hf : Fits ledger e) : Disciplined (ledger ++ [e]) where
  sound before after ha := by
    rcases List.eq_nil_or_concat after with rfl | ⟨front, last, rfl⟩
    · rw [List.append_nil] at ha
      rwa [← ha, balance_snoc]
    · rw [List.concat_eq_append, ← List.append_assoc] at ha
      exact h.sound before front (List.append_inj_left' ha rfl)
  fits before x after ha := by
    rcases List.eq_nil_or_concat after with rfl | ⟨front, last, rfl⟩
    · obtain ⟨rfl, hx⟩ := List.append_inj' ha rfl
      obtain rfl := List.singleton_inj.mp hx
      exact hf
    · rw [List.concat_eq_append, ← List.cons_append, ← List.append_assoc] at ha
      exact h.fits before x front (List.append_inj_left' ha rfl)

namespace Run

variable {σ : Type} (c : Collaborators σ)

/-! ## Stages of a run -/

/-- Behind a ledger `n` streams were asked for and handed out, `held` of them are open, at most `m`
sessions were asked for, and all of them are closed. -/
structure Stage (n held m : Nat) (ledger : List Entry) : Prop where
  disciplined : Disciplined ledger
  traversals : (balance ledger).traversals = n
  out : (balance ledger).streamsOut = n
  back : (balance ledger).streamsBack + held = n
  lookups : (balance ledger).lookups ≤ m
  sessions : (balance ledger).sessionsBack = (balance ledger).sessionsOut

/-- A disciplined ledger behind which nothing is open. -/
structure Released (ledger : List Entry) : Prop where
  disciplined : Disciplined ledger
  closed : (balance ledger).Closed

namespace Stage

variable {ledger : List Entry} {n held m : Nat}

theorem openStreams_eq (h : Stage n held m ledger) : (balance ledger).openStreams = held := by
  have := h.out
  have := h.back
  unfold Balance.openStreams
  omega

theorem released (h : Stage n 0 m ledger) : Released ledger where
  disciplined := h.disciplined
  closed := ⟨h.back.trans h.out.symm, h.sessions⟩

theorem mono (h : Stage n held m ledger) {m' : Nat} (hm : m ≤ m') : Stage n held m' ledger :=
  { h with lookups := Nat.le_trans h.lookups hm }

theorem openStream (h : Stage n 0 m ledger) (hn : n < 2) (hm : m ≤ 2) :
    Stage (n + 1) 1 m (ledger ++ [.openStream true]) := by
  obtain ⟨hd, ht, ho, hb, hl, hsess⟩ := h
  refine ⟨hd.snoc (.of_open 1 0 ?_ ?_ (Nat.le_refl 1) ?_ ?_) trivial, ?_, ?_, ?_, ?_, ?_⟩
  all_goals simp only [balance_snoc, Balance.enter, Bool.toNat_true]; omega

theorem refused (h : Stage n 0 m ledger) (hn : n < 2) (hm : m ≤ 2) :
    Released (ledger ++ [.openStream false]) := by
  obtain ⟨hd, ht, ho, hb, hl, hsess⟩ := h
  refine ⟨hd.snoc (.of_open 0 0 ?_ ?_ (Nat.zero_le 1) ?_ ?_) trivial, ?_, ?_⟩
  all_goals simp only [balance_snoc, Balance.enter, Bool.toNat_false]; omega

theorem closeStream (h : Stage n 1 m ledger) (hn : n ≤ 2) (hm : m ≤ 2) :
    Stage n 0 m (ledger ++ [.closeStream]) := by
  obtain ⟨hd, ht, ho, hb, hl, hsess⟩ := h
  refine ⟨hd.snoc (.of_open 0 0 ?_ ?_ (Nat.zero_le 1) ?_ ?_) trivial, ?_, ?_, ?_, ?_, ?_⟩
  all_goals simp only [balance_snoc, Balance.enter]; omega

theorem lookup (h : Stage n 0 m ledger) (hn : n ≤ 2) (hm : m < 2) :
    Stage n 0 (m + 1) (ledger ++ [.openSession true] ++ [.closeSession]) := by
  have hfits : Fits ledger (.openSession true) := h.openStreams_eq
  obtain ⟨hd, ht, ho, hb, hl, hsess⟩ := h
  have hopened : Disciplined (ledger ++ [.openSession true]) := by
    refine hd.snoc (.of_open 0 1 ?_ ?_ (Nat.le_refl 1) ?_ ?_) hfits
    all_goals simp only [Balance.enter, Bool.toNat_true]; omega
  refine ⟨hopened.snoc (.of_open 0 0 ?_ ?_ (Nat.zero_le 1) ?_ ?_) trivial, ?_, ?_, ?_, ?_, ?_⟩
  all_goals simp only [balance_snoc, Balance.enter, Bool.toNat_true]; omega

theorem lookupRefused (h : Stage n 0 m ledger) (hn : n ≤ 2) (hm : m < 2) :
    Stage n 0 (m + 1) (ledger ++ [.openSession false]) := by
  have hfits : Fits ledger (.openSession false) := h.openStreams_eq
  obtain ⟨hd, ht, ho, hb, hl, hsess⟩ := h
  refine ⟨hd.snoc (.of_open 0 0 ?_ ?_ (Nat.zero_le 1) ?_ ?_) hfits, ?_, ?_, ?_, ?_, ?_⟩
  all_goals simp only [balance_snoc, Balance.enter, Bool.toNat_false]; omega

/-- Handing notices over opens and closes nothing. -/
theorem handOver (h : Stage n held m ledger) {e : Entry}
    (he : (balance ledger).enter e = balance ledger) (hf : Fits ledger e) :
    Stage n held m (ledger ++ [e]) := by
  obtain ⟨hd, ht, ho, hb, hl, hsess⟩ := h
  have hsound := hd.sound ledger [] (List.append_nil _).symm
  rw [← he] at hsound
  exact ⟨hd.snoc hsound hf, by rwa [balance_snoc, he], by rwa [balance_snoc, he],
    by rwa [balance_snoc, he], by rwa [balance_snoc, he], by rwa [balance_snoc, he]⟩

end Stage

/-! ## The parts of a run -/

/-- The right number of open streams while notices are handed over. -/
structure OpenFor (held : Nat) (notices : List Notice) : Prop where
  full : IsFullBatch notices → held = 1
  rest : ¬ IsFullBatch notices → held = 0

theorem Stage.timely {ledger : List Entry} {held m : Nat} {notices : List Notice}
    (h : Stage 2 held m ledger) (hn : OpenFor held notices) : Timely (balance ledger) notices where
  second := ⟨h.traversals, h.out⟩
  full hf := h.openStreams_eq.trans (hn.full hf)
  rest hf := h.openStreams_eq.trans (hn.rest hf)

section Parts

variable {c} {held m : Nat}

theorem openStream_stage {n : Nat} (hn : n < 2) (hm : m ≤ 2) :
    Triple (Ledger (Stage n 0 m)) (.call .openStream c.withLedger.openStream)
      (fun _ => Ledger (Stage (n + 1) 1 m)) fun _ => Ledger Released :=
  Ledger.openStream (fun _ h => h.openStream hn hm) fun _ h => h.refused hn hm

/-- Reading the assignees takes the first stream. -/
theorem assigneeUuids_stage :
    Triple (Ledger (Stage 0 0 0)) (assigneeUuids c.withLedger) (fun _ => Ledger (Stage 1 0 0))
      fun _ => Ledger Released := by
  have hclose : ∀ ledger, Stage 1 1 0 ledger → Stage 1 0 0 (ledger ++ [.closeStream]) :=
    fun _ h => h.closeStream (by decide) (by decide)
  exact .assigneeUuids (openStream_stage (by decide) (by decide))
    (fun _ _ _ _ s h => hclose s.2 h) fun _ _ _ _ _ s h => (hclose s.2 h).released

/-- Looking users up takes a session at most. -/
theorem resolveUsers_stage (uuids : List String) {n : Nat} (hn : n ≤ 2) (hm : m < 2) :
    Triple (Ledger (Stage n 0 m)) (c.withLedger.resolveUsers uuids)
      (fun _ => Ledger (Stage n 0 (m + 1))) fun _ => Ledger Released :=
  (Ledger.resolveUsers uuids (fun _ h => h.mono (Nat.le_succ m))
    (fun _ h => (h.lookupRefused hn hm).released) (fun _ h => h.lookup hn hm)
    fun _ h => (h.lookup hn hm).released).post fun _ _ _ h => h.2

theorem send_stage {kind : NoticeKind} {counted : Nat} {notices : List Notice}
    {counters : Counters} (hn : OpenFor held notices) :
    Triple (Ledger (Stage 2 held m)) (send c.withLedger kind counted notices counters)
      (fun _ => Ledger (Stage 2 held m)) fun _ => Ledger (Stage 2 held m) := by
  -- the singles are those of the bulk handed over last
  let I (_ : Counters) (ledger : List Entry) : Prop :=
    Stage 2 held m ledger ∧ lastBulk ledger = notices
  have hsend : Triple (Ledger (Stage 2 held m)) (send c.withLedger kind counted notices counters)
      (fun counters => Ledger (I counters)) fun _ => Ledger (Stage 2 held m) := by
    refine Ledger.send ?_ ?_ ?_ ?_
    · intro n ledger h
      exact ⟨h.handOver rfl (h.timely hn), by simp [lastBulk]⟩
    · intro ledger h
      exact h.handOver rfl (h.timely hn)
    · rintro notice hmem n - ledger ⟨h, hlast⟩
      exact ⟨h.handOver rfl ⟨hlast ▸ hmem, hlast ▸ h.timely hn⟩, by simpa [lastBulk] using hlast⟩
    · rintro notice hmem - ledger ⟨h, hlast⟩
      exact h.handOver rfl ⟨hlast ▸ hmem, hlast ▸ h.timely hn⟩
  exact hsend.post fun _ _ _ h => h.1

/-- A chunk of change notices is a full batch iff the chunk is full. -/
theorem openFor_chunk {chunk : List Issue} {notices : List Notice}
    (hlength : notices.length = chunk.length) (hkind : ∀ n ∈ notices, n.kind = .issueChanges)
    (hfull : chunk.length = changeBatchSize → held = 1)
    (hrest : chunk.length ≠ changeBatchSize → held = 0) : OpenFor held notices where
  full h := hfull (hlength ▸ h.length)
  rest h := hrest fun hc => h ⟨hlength.trans hc, hkind⟩

/-- A full chunk is announced while the stream is open, any other while it is closed. -/
theorem announceChunk_stage {d : Desk} {q : Counters × Nat} {chunk : List Issue}
    (hfull : chunk.length = changeBatchSize → held = 1)
    (hrest : chunk.length ≠ changeBatchSize → held = 0) :
    Triple (Ledger (Stage 2 held m)) (announceChunk c.withLedger d q chunk)
      (fun _ => Ledger (Stage 2 held m)) fun _ => Ledger (Stage 2 held m) :=
  Ledger.announceChunk (fun _ h => h) fun _ _ hlength hkind =>
    send_stage (openFor_chunk hlength hkind hfull hrest)

/-- **Full chunks are announced while the second stream is open, the last one behind it.** -/
theorem routeIssues_stage (period : LeakPeriod) (d : Desk) (hm : m ≤ 2) :
    Triple (Ledger (Stage 1 0 m)) (routeIssues c.withLedger period d)
      (fun _ => Ledger (Stage 2 0 m)) fun _ => Ledger Released := by
  have hclose : ∀ ledger, Stage 2 1 m ledger → Stage 2 0 m (ledger ++ [.closeStream]) :=
    fun _ h => h.closeStream (Nat.le_refl 2) hm
  refine (Triple.routeIssues (I := fun _ _ => Ledger (Stage 2 1 m))
    (J := fun _ _ => Ledger (Stage 2 0 m)) (F := fun _ => Ledger (Stage 2 1 m))
    (openStream_stage (by decide) hm) (fun stream _ front chunk back hchunks q => ?_)
    (fun _ _ _ _ s h => hclose s.2 h) (fun _ _ _ _ _ _ s h => (hclose s.2 h).released)
    (fun _ _ s h => (hclose s.2 h).released) fun issues _ chunk hchunk q => ?_).post
      fun _ _ _ ⟨_, _, _, h⟩ => h
  · have hchunk : chunk ∈ fullChunks changeBatchSize (period.changed (readable stream)) := by
      rw [hchunks]
      exact List.mem_append_right front List.mem_cons_self
    have hlength : chunk.length = changeBatchSize := length_of_mem_fullChunks hchunk
    exact announceChunk_stage (fun _ => rfl) fun h => absurd hlength h
  · have hlength : chunk.length < changeBatchSize := by
      rw [eq_of_mem_lastChunk hchunk, length_leftover (by decide)]
      exact Nat.mod_lt _ (by decide)
    exact (announceChunk_stage (fun h => absurd h (Nat.ne_of_lt hlength)) fun _ => rfl).onError
      fun _ _ _ h => Stage.released h

/-- Notices of another kind are handed over while no stream is open. -/
theorem openFor_zero {notices : List Notice} {n : Notice} (hmem : n ∈ notices)
    (hkind : n.kind ≠ .issueChanges) : OpenFor 0 notices where
  full h := absurd (h.kind n hmem) hkind
  rest _ := rfl

theorem sendNewIssues_stage (d : Desk) (rollup : Rollup) (counters : Counters) :
    Triple (Ledger (Stage 2 0 m)) (sendNewIssues c.withLedger d rollup counters)
      (fun _ => Ledger (Stage 2 0 m)) fun _ => Ledger (Stage 2 0 m) :=
  .sendNewIssues (send_stage (openFor_zero List.mem_cons_self nofun))

theorem sendMyNewIssues_stage (d : Desk) (rollup : Rollup) (counters : Counters) (hm : m < 2) :
    Triple (Ledger (Stage 2 0 m)) (sendMyNewIssues c.withLedger d rollup counters)
      (fun _ => Ledger (Stage 2 0 (m + 1))) fun _ => Ledger Released := by
  refine .sendMyNewIssues (resolveUsers_stage _ (Nat.le_refl 2) hm) (fun _ _ _ _ h => h)
    fun hne users => ?_
  obtain ⟨⟨uuid, statistics⟩, howner⟩ := List.exists_mem_of_ne_nil _ hne
  exact (send_stage (openFor_zero (List.mem_map_of_mem howner) (by nofun))).onError
    fun _ _ _ h => Stage.released h

theorem sendAll_stage (r : Request) :
    Triple (Ledger (Stage 0 0 0)) (sendAll c.withLedger r) (fun _ => Ledger (Stage 2 0 2))
      fun _ => Ledger Released :=
  .sendAll assigneeUuids_stage (fun uuids => resolveUsers_stage uuids (by decide) (by decide))
    (fun _ => routeIssues_stage _ _ (by decide))
    (fun _ _ _ => (sendNewIssues_stage _ _ _).onError fun _ _ _ h => Stage.released h)
    (fun _ _ _ _ => sendMyNewIssues_stage _ _ _ (by decide))
    fun _ _ _ _ _ h => Stage.mono h (by decide)

theorem sendIfWanted_stage (r : Request) :
    Triple (Ledger (Stage 0 0 0)) (sendIfWanted c.withLedger r) (fun _ => Ledger Released)
      fun _ => Ledger Released :=
  Ledger.sendIfWanted r ((sendAll_stage r).post fun _ _ _ h => Stage.released h)
    (fun _ h => h.released) fun _ h => h.released

end Parts

/-! ## Whole runs -/

theorem Stage.nil : Stage 0 0 0 [] := ⟨.nil, rfl, rfl, rfl, Nat.le_refl 0, rfl⟩

/-- Behind a run everything was given back. -/
theorem released_execute (r : Request) (s : σ) :
    Released (execute c.withLedger r (s, [])).state.2 := by
  cases hs : r.analysis.branch.isSilent with
  | true =>
    rw [execute_eq_skip _ hs]
    exact Stage.nil.released
  | false =>
    obtain ⟨hok, herror⟩ := sendIfWanted_stage r [] (s, []) Stage.nil
    rw [execute_eq_finish _ hs, finish_apply]
    cases hr : (sendIfWanted c.withLedger r (s, [])).result with
    | ok response => exact hok response hr
    | error e => exact herror e hr

/-- **A run is disciplined, however its collaborators behave.** A ledger kept over a run, which the
run does not notice, has an entry for each of its acts that calls for one. At every moment one
stream or one session is open at most, and nothing was given back that was not handed out; at most
two of each were asked for, and no session while a stream was open; full batches were handed over
while the second stream was open, everything else after it was closed. In the end everything was
given back, and if the run failed, it was so before that was told. -/
theorem execute_disciplined (r : Request) (s : σ) :
    let o := execute c.withLedger r (s, [])
    let p := execute c r s
    let ledger := o.state.2
    (o.acts = p.acts ∧ o.result = p.result ∧ o.state.1 = p.state) ∧
      entered p.acts = ledger.map Entry.event ∧
      Disciplined ledger ∧ (balance ledger).Closed ∧
      ∀ before text after, p.acts = before ++ .event (.failed text) :: after →
        entered before = ledger.map Entry.event := by
  intro o p ledger
  have hghost := execute_withLedger c r s []
  have hentered : entered p.acts = ledger.map Entry.event := by
    rw [← entered_execute c r s, hghost.acts]
  have hreleased := released_execute c r s
  refine ⟨⟨hghost.acts, hghost.result, hghost.state⟩, hentered, hreleased.disciplined,
    hreleased.closed, fun before text after h => ?_⟩
  rw [entered_before_failed c r s h, hentered]

end Run

end IssueNotice
