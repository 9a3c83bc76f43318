import IssueNotice.Proofs.Run.Routing

/-!
# Triples

`Triple P x Q E` says that from a moment with `P` the computation `x` ends with a value `a` at a
moment with `Q a`, or fails with `e` at a moment with `E e`. A moment is what has shown by then, the
outward events, and the state of the collaborators.

There is a rule for each way in which computations are put together, and one for each part of a run:
`send_inOrder`, `announceChunk`, `routeIssues`, `sendNewIssues`, `sendMyNewIssues`, `sendAll`,
`sendIfWanted`. The rule for a part asks for triples of the calls that the part makes. What a run
does to some account that is kept of it is proved by these rules, and not by opening the parts
again.
-/

namespace IssueNotice

namespace Run

variable {σ α β : Type}

/-- What may hold at a moment: of the outward events up to then, and of the state. -/
abbrev Assertion (σ : Type) := List Event → σ → Prop

/-- From a moment with `P`, a computation ends with a value `a` at a moment with `Q a`, or it fails
with `e` at a moment with `E e`. -/
def Triple (P : Assertion σ) (x : Traced σ α) (Q : α → Assertion σ) (E : Failure → Assertion σ) :
    Prop :=
  ∀ seen s, P seen s →
    (∀ a, (x s).result = .ok a → Q a (seen ++ outward (x s).acts) (x s).state) ∧
    (∀ e, (x s).result = .error e → E e (seen ++ outward (x s).acts) (x s).state)

/-- What never happens. -/
def Never : Assertion σ := fun _ _ => False

/-- The notices of the owners of new issues, addressed to the users found for them. -/
def Desk.personal (d : Desk) (rollup : Rollup) (users : Keyed User) : List Notice :=
  rollup.assigneesOnLeak.map fun (uuid, statistics) =>
    .myNewIssues (d.draft.myNewIssues uuid statistics users[uuid]?)

namespace Triple

variable {P : Assertion σ} {Q : α → Assertion σ} {E : Failure → Assertion σ} {x : Traced σ α}

/-! ## Rules for how computations are put together -/

theorem pure {a : α} (h : ∀ seen s, P seen s → Q a seen s) :
    Triple P (pure a : Traced σ α) Q E := by
  refine fun seen s hs => ⟨fun b hb => ?_, fun e he => ?_⟩
  · rw [← Except.ok.inj hb]
    exact (List.append_nil seen).symm ▸ h seen s hs
  · cases he

theorem fail {e : Failure} (h : ∀ seen s, P seen s → E e seen s) :
    Triple P (.fail e : Traced σ α) Q E := by
  refine fun seen s hs => ⟨fun a ha => ?_, fun f hf => ?_⟩
  · cases ha
  · rw [← Except.error.inj hf]
    exact (List.append_nil seen).symm ▸ h seen s hs

/-- A message that does not show outside changes nothing. -/
theorem note {e : Event} (he : [e].filter Event.isOutward = []) :
    Triple P (.note e : Traced σ Unit) (fun _ => P) E := by
  refine fun seen s hs => ⟨fun _ _ => ?_, fun f hf => ?_⟩
  · change P (seen ++ [e].filter Event.isOutward) s
    rwa [he, List.append_nil]
  · cases hf

theorem call {e : Event} {answer : Answer σ α}
    (hok : ∀ seen s a, P seen s → (answer s).1 = .ok a →
      Q a (seen ++ [e].filter Event.isOutward) (answer s).2)
    (herror : ∀ seen s f, P seen s → (answer s).1 = .error f →
      E f (seen ++ [e].filter Event.isOutward) (answer s).2) :
    Triple P (.call e answer) Q E :=
  fun seen s hs => ⟨fun a ha => hok seen s a hs ha, fun f hf => herror seen s f hs hf⟩

theorem bind {M : α → Assertion σ} {Q : β → Assertion σ} {f : α → Traced σ β}
    (hx : Triple P x M E) (hf : ∀ a, Triple (M a) (f a) Q E) : Triple P (x >>= f) Q E := by
  intro seen s hs
  obtain ⟨hok, herror⟩ := hx seen s hs
  cases hr : (x s).result with
  | error e =>
    rw [Traced.bind_of_error hr]
    refine ⟨fun a ha => ?_, fun f hf => ?_⟩
    · cases ha
    · rw [← Except.error.inj hf]
      exact herror e hr
  | ok a =>
    rw [Traced.bind_of_ok hr, outward_append, ← List.append_assoc]
    exact hf a _ _ (hok a hr)

/-- What is given back behind a computation, whether that failed or not, does not show. -/
theorem andFinally_release {e : Event} (he : [e].filter Event.isOutward = []) {g : σ → σ}
    (hx : Triple P x (fun a seen s => Q a seen (g s)) (fun f seen s => E f seen (g s))) :
    Triple P (x.andFinally (.release e g)) Q E := by
  intro seen s hs
  have hacts : outward (x.andFinally (.release e g) s).acts = outward (x s).acts := by
    refine (outward_append _ _).trans ?_
    change _ ++ [e].filter Event.isOutward = _
    rw [he, List.append_nil]
  rw [hacts]
  exact hx seen s hs

theorem mono {P' : Assertion σ} {Q' : α → Assertion σ} {E' : Failure → Assertion σ}
    (hx : Triple P x Q E) (hP : ∀ seen s, P' seen s → P seen s)
    (hQ : ∀ a seen s, Q a seen s → Q' a seen s) (hE : ∀ e seen s, E e seen s → E' e seen s) :
    Triple P' x Q' E' := by
  intro seen s hs
  obtain ⟨hok, herror⟩ := hx seen s (hP seen s hs)
  exact ⟨fun a ha => hQ a _ _ (hok a ha), fun e he => hE e _ _ (herror e he)⟩

theorem post {Q' : α → Assertion σ} (hx : Triple P x Q E)
    (hQ : ∀ a seen s, Q a seen s → Q' a seen s) : Triple P x Q' E :=
  hx.mono (fun _ _ h => h) hQ fun _ _ _ h => h

theorem onError {E' : Failure → Assertion σ} (hx : Triple P x Q E)
    (hE : ∀ e seen s, E e seen s → E' e seen s) : Triple P x Q E' :=
  hx.mono (fun _ _ h => h) (fun _ _ _ h => h) hE

/-- What is known beforehand may be used. -/
theorem given {p : Prop} (h : p → Triple P x Q E) : Triple (fun seen s => p ∧ P seen s) x Q E :=
  fun seen s hs => h hs.1 seen s hs.2

/-- What exists beforehand may be named. -/
theorem ofExists {γ : Type} {P : γ → Assertion σ} (h : ∀ a, Triple (P a) x Q E) :
    Triple (fun seen s => ∃ a, P a seen s) x Q E :=
  fun seen s ⟨a, hs⟩ => h a seen s hs

/-- What is known of a result may be used behind the computation. -/
theorem and_result {p : α → Prop} {E' : Failure → Assertion σ} (hx : Triple P x Q E)
    (hok : ∀ s a, (x s).result = .ok a → p a)
    (herror : ∀ s e, (x s).result = .error e → ∀ seen s, E e seen s → E' e seen s) :
    Triple P x (fun a seen s => p a ∧ Q a seen s) E' := by
  intro seen s hs
  obtain ⟨ha, he⟩ := hx seen s hs
  exact ⟨fun a h => ⟨hok s a h, ha a h⟩, fun e h => herror s e h _ _ (he e h)⟩

/-- What is known of a value may be used behind the computation. -/
theorem and_value {p : α → Prop} (hx : Triple P x Q E) (h : ∀ s a, (x s).result = .ok a → p a) :
    Triple P x (fun a seen s => p a ∧ Q a seen s) E :=
  hx.and_result h fun _ _ _ _ _ he => he

/-- Where no failure is possible there is a value. -/
theorem exists_ok {s : σ} (hx : Triple P x Q E) (hE : ∀ e seen s, ¬ E e seen s) (hs : P [] s) :
    ∃ a, (x s).result = .ok a ∧ Q a (outward (x s).acts) (x s).state := by
  obtain ⟨hok, herror⟩ := hx [] s hs
  cases hr : (x s).result with
  | ok a => exact ⟨a, rfl, hok a hr⟩
  | error e => exact absurd (herror e hr) (hE e _ _)

/-- Where no value is possible there is a failure. -/
theorem exists_error {s : σ} (hx : Triple P x Q E) (hQ : ∀ a seen s, ¬ Q a seen s) (hs : P [] s) :
    ∃ e, (x s).result = .error e ∧ E e (outward (x s).acts) (x s).state := by
  obtain ⟨hok, herror⟩ := hx [] s hs
  cases hr : (x s).result with
  | ok a => exact absurd (hok a hr) (hQ a _ _)
  | error e => exact ⟨e, rfl, herror e hr⟩

/-- A fold, with what is known behind each of its items. -/
theorem fold_inOrder {I : List α → β → Assertion σ} {step : β → α → Traced σ β} {xs : List α}
    (h : ∀ front a back, xs = front ++ a :: back → ∀ b,
      Triple (I front b) (step b a) (I (front ++ [a])) E) (b : β) :
    Triple (I [] b) (Traced.fold step b xs) (I xs) E := by
  suffices hrest : ∀ rest front, xs = front ++ rest → ∀ b,
      Triple (I front b) (Traced.fold step b rest) (I xs) E from hrest xs [] rfl b
  intro rest
  induction rest with
  | nil =>
    intro front hxs b
    rw [hxs, List.append_nil]
    exact .pure fun _ _ hb => hb
  | cons a rest ih =>
    intro front hxs b
    have hfront : xs = (front ++ [a]) ++ rest := by
      rw [hxs, List.append_assoc, List.singleton_append]
    exact (h front a rest hxs b).bind fun b => ih (front ++ [a]) hfront b

theorem each {f : α → Traced σ β} {xs : List α} (h : ∀ a ∈ xs, Triple P (f a) (fun _ => P) E) :
    Triple P (Traced.each f xs) (fun _ => P) E := by
  induction xs with
  | nil => exact .pure fun _ _ hb => hb
  | cons x rest ih =>
    have hrest := ih fun a ha => h a (List.mem_cons_of_mem x ha)
    exact (h x List.mem_cons_self).bind fun b => hrest.bind fun bs => .pure fun _ _ hb => hb

/-! ## Rules for what a run asks of its collaborators -/

variable {c : Collaborators σ}

/-- Carrying a value through the issues of a stream: the stream is open during the steps, and is
given back behind them. -/
theorem foldIssues {step : β → Issue → Traced σ β} {b : β} {M : Assertion σ}
    {I : List Read → β → Assertion σ} {F : Failure → Assertion σ} {Q : β → Assertion σ}
    (hopen : Triple P (.call .openStream c.openStream) (fun _ => M) E)
    (hsteps : ∀ stream, c.Hands stream →
      Triple M (Traced.fold step b (readable stream)) (I stream) F)
    (hclose : ∀ stream, c.Hands stream → breakage stream = none → ∀ b seen s,
      I stream b seen s → Q b seen (c.closeStream s))
    (hbroken : ∀ stream e, c.Hands stream → breakage stream = some e → ∀ b seen s,
      I stream b seen s → E e seen (c.closeStream s))
    (hfailed : ∀ e seen s, F e seen s → E e seen (c.closeStream s)) :
    Triple P (c.foldIssues step b) Q E := by
  intro seen s hs
  obtain ⟨hok, herror⟩ := hopen seen s hs
  cases hr : (c.openStream s).1 with
  | error e =>
    rw [foldIssues_refused step b hr]
    refine ⟨fun a ha => ?_, fun f hf => ?_⟩
    · cases ha
    · rw [← Except.error.inj hf]
      exact herror e hr
  | ok stream =>
    have hm : M seen (c.openStream s).2 := List.append_nil seen ▸ hok stream hr
    obtain ⟨hcalls, hresult, hclosed⟩ := foldIssues_outcome step b hr
    have hshown : outward (c.foldIssues step b s).acts =
        outward (Traced.fold step b (readable stream) (c.openStream s).2).acts := by
      rw [outward_eq_calls, outward_eq_calls, hcalls]
      rfl
    have hands : c.Hands stream := ⟨s, hr⟩
    obtain ⟨hstep, hstop⟩ := hsteps stream hands seen _ hm
    rw [hclosed, hresult, hshown]
    unfold endOfReading
    cases hb : breakage stream with
    | none =>
      exact ⟨fun a ha => hclose stream hands hb a _ _ (hstep a ha),
        fun e he => hfailed e _ _ (hstop e he)⟩
    | some e =>
      cases ho : (Traced.fold step b (readable stream) (c.openStream s).2).result with
      | ok a =>
        refine ⟨fun a ha => absurd ha (by simp [Except.bind]), fun f hf => ?_⟩
        rw [← Except.error.inj hf]
        exact hbroken stream e hands hb a _ _ (hstep a ho)
      | error e' =>
        refine ⟨fun a ha => absurd ha (by simp [Except.bind]), fun f hf => ?_⟩
        rw [← Except.error.inj hf]
        exact hfailed e' _ _ (hstop e' ho)

/-- Looking up users: the session is given back behind its query. -/
theorem resolveUsers {uuids : List String} {M : Assertion σ} {Q : Keyed User → Assertion σ}
    (hskip : uuids = [] → ∀ seen s, P seen s → Q ∅ seen s)
    (hopen : uuids ≠ [] → Triple P (.call .openSession c.openSession) (fun _ => M) E)
    (hselect : uuids ≠ [] → Triple M (.call (.selectUsers uuids) (c.selectUsers uuids))
      (fun found seen s => Q (User.byUuid found) seen (c.closeSession s))
      (fun e seen s => E e seen (c.closeSession s))) :
    Triple P (c.resolveUsers uuids) Q E := by
  unfold Collaborators.resolveUsers
  by_cases he : uuids = []
  · rw [if_pos (List.isEmpty_iff.mpr he)]
    exact .pure (hskip he)
  · rw [if_neg fun h => he (List.isEmpty_iff.mp h)]
    refine (hopen he).bind fun _ => ?_
    refine Triple.bind (M := fun found => Q (User.byUuid found)) ?_ fun _ => .pure fun _ _ h => h
    exact (hselect he).andFinally_release rfl

/-- Handing notices over: all of them by email, then each by the legacy channel, in order. -/
theorem send_inOrder {kind : NoticeKind} {counted : Nat} {notices : List Notice}
    {counters : Counters} {I : List Notice → Counters → Assertion σ}
    (hbulk : Triple P (.call (.sendBulk notices) (c.sendBulk notices))
      (fun n => I [] ((counters.addDeliveries kind n).addNotices kind counted)) E)
    (hsingle : ∀ front notice back, notices = front ++ notice :: back → ∀ counters,
      Triple (I front counters) (.call (.sendSingle notice) (c.sendSingle notice))
        (fun n => I (front ++ [notice]) (counters.addDeliveries kind n)) E) :
    Triple P (Run.send c kind counted notices counters) (I notices) E :=
  hbulk.bind fun _ => fold_inOrder (fun front notice back hn counters =>
    (hsingle front notice back hn counters).bind fun _ => .pure fun _ _ h => h) _

/-- Drafting the notice of a changed issue: its rule is looked up, and has to be known. -/
theorem draftChange {d : Desk} {i : Issue} {file : Option Component} {Q : Assertion σ}
    (hfind : Triple P (.call (.findRule i.ruleKey) (c.findRule i.ruleKey))
      (fun rule seen s => match rule with
        | some _ => Q seen s
        | none => E (.unknownRule i.ruleKey) seen s) E) :
    Triple P (Run.draftChange c d i file) (fun _ => Q) E := by
  refine hfind.bind fun rule => ?_
  cases rule with
  | some rule => exact .pure fun _ _ h => h
  | none => exact .fail fun _ _ h => h

/-! ## Rules for the parts of a run -/

section Parts

variable {d : Desk}

theorem assigneeUuids {M : Assertion σ} {Q : List String → Assertion σ}
    (hopen : Triple P (.call .openStream c.openStream) (fun _ => M) E)
    (hclose : ∀ stream, c.Hands stream → breakage stream = none → ∀ seen s, M seen s →
      Q (assignees (readable stream)) seen (c.closeStream s))
    (hbroken : ∀ stream e, c.Hands stream → breakage stream = some e → ∀ seen s, M seen s →
      E e seen (c.closeStream s)) :
    Triple P (Run.assigneeUuids c) Q E := by
  -- the steps do nothing but carry the uuids along
  let I (stream : List Read) (uuids : TextSet) (seen : List Event) (s : σ) : Prop :=
    uuids.toList = assignees (readable stream) ∧ M seen s
  have hread : Triple P (c.foldIssues (fun (uuids : TextSet) i =>
      Pure.pure (uuids.insertMany i.assignee.toList)) ∅) (fun uuids => Q uuids.toList) E := by
    refine .foldIssues (I := I) (F := fun _ => Never) hopen (fun stream _ => ?_) ?_ ?_ ?_
    · rw [Traced.fold_pure]
      exact .pure fun _ _ h => ⟨rfl, h⟩
    · rintro stream hs hb uuids seen s ⟨hu, h⟩
      exact hu ▸ hclose stream hs hb seen s h
    · exact fun stream e hs hb _ seen s h => hbroken stream e hs hb seen s h.2
    · exact fun _ _ _ h => h.elim
  exact hread.bind fun _ => .pure fun _ _ h => h

/-- Announcing a chunk: all notices are drafted before the first is handed over. -/
theorem announceChunk {q : Counters × Nat} {chunk : List Issue} {M : Failure → Assertion σ}
    {Q : Counters → Assertion σ}
    (hdraft : ∀ i ∈ chunk,
      Triple P (Run.draftChange c d i (d.tree.fileNamed i.component)) (fun _ => P) M)
    (hstop : ∀ e, Stops c d chunk e → ∀ seen s, M e seen s → E e seen s)
    (hsend : ∀ notices, List.Forall₂ (c.Drafts d) chunk notices →
      Triple P (Run.send c .issueChanges 1 notices q.1) Q E) :
    Triple P (Run.announceChunk c d q chunk) (fun q' => Q q'.1) E := by
  have hdrafts : Triple P (draftAll c d chunk)
      (fun notices seen s => List.Forall₂ (c.Drafts d) chunk notices ∧ P seen s) E :=
    (each hdraft).and_result (fun _ _ => forall₂_drafts_of_ok) fun _ e he =>
      hstop e (stops_of_error he)
  refine hdrafts.bind fun notices => .given fun hn => ?_
  exact (hsend notices hn).bind fun _ => (note rfl).bind fun _ => .pure fun _ _ h => h

/-- Routing: the full chunks of the changed issues are announced while the stream is open, the last
chunk behind it. `I` and `J` are what holds behind the chunks up to one, with the stream open and
with the stream given back. -/
theorem routeIssues {period : LeakPeriod} {I J : List (List Issue) → Counters → Assertion σ}
    {F : Failure → Assertion σ}
    (hopen : Triple P (.call .openStream c.openStream) (fun _ => I [] {}) E)
    (hfull : ∀ stream, c.Hands stream → ∀ front chunk back,
      fullChunks changeBatchSize (period.changed (readable stream)) = front ++ chunk :: back →
      ∀ q, Triple (I front q.1) (Run.announceChunk c d q chunk)
        (fun q' => I (front ++ [chunk]) q'.1) F)
    (hclose : ∀ issues, c.Gives issues → ∀ counters seen s,
      I (fullChunks changeBatchSize (period.changed issues)) counters seen s →
      J (fullChunks changeBatchSize (period.changed issues)) counters seen (c.closeStream s))
    (hbroken : ∀ stream e, c.Hands stream → breakage stream = some e → ∀ counters seen s,
      I (fullChunks changeBatchSize (period.changed (readable stream))) counters seen s →
      E e seen (c.closeStream s))
    (hfailed : ∀ e seen s, F e seen s → E e seen (c.closeStream s))
    (hlast : ∀ issues, c.Gives issues →
      ∀ chunk ∈ lastChunk (leftover changeBatchSize (period.changed issues)), ∀ q,
        Triple (J (fullChunks changeBatchSize (period.changed issues)) q.1)
          (Run.announceChunk c d q chunk)
          (fun q' => J (chunks changeBatchSize (period.changed issues)) q'.1) E) :
    Triple P (Run.routeIssues c period d)
      (fun p seen s => ∃ issues, c.Gives issues ∧
        p.rollup = ({} : Rollup).addAll (period.counted issues) ∧
        J (chunks changeBatchSize (period.changed issues)) p.counters seen s) E := by
  let R (issues : List Issue) (p : Progress d.tree) : Prop :=
    p.rollup = ({} : Rollup).addAll (period.counted issues) ∧
      p.batch.items.toList = leftover changeBatchSize (period.changed issues)
  have hread : Triple P (c.foldIssues (routeIssue c period d) {})
      (fun p seen s => ∃ issues, (c.Gives issues ∧ R issues p) ∧
        J (fullChunks changeBatchSize (period.changed issues)) p.counters seen s) E := by
    refine .foldIssues (I := fun stream p seen s => R (readable stream) p ∧
      I (fullChunks changeBatchSize (period.changed (readable stream))) p.counters seen s)
      hopen (fun stream hs => ?_) ?_ ?_ hfailed
    · rw [fold_routeIssue_start]
      have hannounce := fold_inOrder (I := fun front q => I front q.1) (hfull stream hs) ({}, 0)
      exact hannounce.bind fun q => .pure fun seen s h => ⟨⟨rfl, rfl⟩, h⟩
    · rintro stream hs hb p seen s ⟨hr, h⟩
      have hg : c.Gives (readable stream) := ⟨stream, hs, hb, rfl⟩
      exact ⟨_, ⟨hg, hr⟩, hclose _ hg _ _ _ h⟩
    · exact fun stream e hs hb p seen s h => hbroken stream e hs hb _ _ _ h.2
  rw [routeIssues_eq]
  refine hread.bind fun p => .ofExists fun issues => .given fun hp => ?_
  obtain ⟨hg, hrollup, hbatch⟩ := hp
  -- what is left in the batch is the last chunk, if there is one
  rw [hbatch]
  refine Triple.bind (M := fun q =>
    J (chunks changeBatchSize (period.changed issues)) q.1) ?_
    fun q => .pure fun _ _ h => ⟨issues, hg, hrollup, h⟩
  have hl := hlast issues hg
  unfold chunks lastChunk at hl ⊢
  by_cases he : leftover changeBatchSize (period.changed issues) = []
  · rw [if_pos he, List.append_nil]
    exact .pure fun _ _ h => h
  · rw [if_neg he] at hl ⊢
    exact Triple.bind (hl _ List.mem_cons_self (p.counters, p.announced))
      fun q => .pure fun _ _ h => h

theorem sendNewIssues {rollup : Rollup} {counters : Counters} {Q : Counters → Assertion σ}
    (hsend : Triple P (Run.send c .newIssues 1
      [.newIssues (d.draft.newIssues rollup.overall d.users)] counters) Q E) :
    Triple P (Run.sendNewIssues c d rollup counters) Q E :=
  (note rfl).bind fun _ => hsend

/-- Telling the owners: their users are looked up first, and without owners nothing is sent. -/
theorem sendMyNewIssues {rollup : Rollup} {counters : Counters} {M : Keyed User → Assertion σ}
    {Q : Counters → Assertion σ} (husers : Triple P (c.resolveUsers rollup.owners) M E)
    (hnone : rollup.assigneesOnLeak = [] → ∀ users seen s, M users seen s → Q counters seen s)
    (hsend : rollup.assigneesOnLeak ≠ [] → ∀ users, Triple (M users)
      (Run.send c .myNewIssues (d.personal rollup users).length (d.personal rollup users) counters)
      Q E) :
    Triple P (Run.sendMyNewIssues c d rollup counters) Q E := by
  refine husers.bind fun users => ?_
  by_cases he : rollup.assigneesOnLeak = []
  · rw [if_pos (List.isEmpty_iff.mpr he)]
    exact .pure (hnone he users)
  · rw [if_neg fun h => he (List.isEmpty_iff.mp h)]
    exact (note rfl).bind fun _ => hsend he users

/-- Sending all notices, part by part. -/
theorem sendAll {r : Request} {A : List String → Assertion σ} {U : Keyed User → Assertion σ}
    {R : Keyed User → Progress r.tree → Assertion σ}
    {N : Keyed User → Progress r.tree → Counters → Assertion σ} {Q : Counters → Assertion σ}
    (huuids : Triple P (Run.assigneeUuids c) A E)
    (husers : ∀ uuids, Triple (A uuids) (c.resolveUsers uuids) U E)
    (hroute : ∀ users, Triple (U users)
      (Run.routeIssues c (.ofAnalysisDate r.analysis.date) (r.desk users)) (R users) E)
    (hnew : ∀ users p, p.rollup.overall.hasOnLeak = true → Triple (R users p)
      (Run.sendNewIssues c (r.desk users) p.rollup p.counters) (N users p) E)
    (hmine : ∀ users p counters, p.rollup.overall.hasOnLeak = true → Triple (N users p counters)
      (Run.sendMyNewIssues c (r.desk users) p.rollup counters) Q E)
    (hnone : ∀ users p, p.rollup.overall.hasOnLeak = false → ∀ seen s, R users p seen s →
      Q p.counters seen s) :
    Triple P (Run.sendAll c r) Q E := by
  refine huuids.bind fun uuids => (husers uuids).bind fun users => (note rfl).bind fun _ => ?_
  refine (hroute users).bind fun p => ?_
  cases hl : p.rollup.overall.hasOnLeak with
  | true =>
    simp only [if_true]
    exact (hnew users p hl).bind fun counters => hmine users p counters hl
  | false =>
    simp only [Bool.false_eq_true, if_false]
    exact .pure (hnone users p hl)

/-- Asking for subscribers; without any a run ends there. -/
theorem sendIfWanted {r : Request} {M : Assertion σ} {Q : Response → Assertion σ}
    (hask : Triple P (.call (.askSubscribers r.analysis.projectUuid NoticeKind.all)
      (c.hasSubscribers r.analysis.projectUuid NoticeKind.all)) (fun _ => M) E)
    (hsend : Triple M (Run.sendAll c r)
      (fun counters => Q { ending := .completed, counters }) E)
    (hskip : ∀ seen s, M seen s → Q { ending := .noSubscribers } seen s) :
    Triple P (Run.sendIfWanted c r) Q E := by
  refine hask.bind fun wanted => ?_
  cases wanted with
  | true => exact hsend.bind fun _ => .pure fun _ _ h => h
  | false => exact (note rfl).bind fun _ => .pure hskip

end Parts

end Triple

end Run

end IssueNotice
