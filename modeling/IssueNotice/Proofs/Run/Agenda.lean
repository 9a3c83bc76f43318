import IssueNotice.Proofs.Component.PostOrder
import IssueNotice.Proofs.Run.IgnoredIssues
import IssueNotice.Proofs.Run.Outbox
import IssueNotice.Proofs.Run.Serving

/-!
# What a run has to say

The issues, rules and users of a store dictate every notice of a run. `Request.decorated` is the
notice of a changed issue, read off the rows for that issue alone; `Store.agenda` lists all that a
run has to say, in order. A changed issue whose rule is not known leaves a gap in the agenda.

`heard_execute` is the result, for collaborators that serve the store and may fail at any call: on
each channel a run hands over a beginning of the agenda, and all of it if it completes.
`changeNotices_decorated` reads the change notices off it, and adds that drafting them does not
depend on what the index of files was asked before (`DraftsAlone`): a run builds its table behind
the first lookup and goes on with it from batch to batch.
-/

namespace IssueNotice.Run

/-! ## The agenda -/

/-- The notice of a changed issue as the issue alone dictates it: the names of its rule, its
assignee and its file are those of the last rows with the key or uuid that it names. There is no
notice without a rule. -/
def Request.decorated (r : Request) (rules : List Rule) (users : List User) (i : Issue) :
    Option Notice :=
  (rules.filter fun rule => rule.key == i.ruleKey).getLast?.map fun rule => .change {
    project := {
      key := r.tree.project.key
      name := r.tree.project.name
      branch := if r.analysis.branch.isMain then none else some r.analysis.branch.name
      pullRequest := none }
    issueKey := i.key
    ruleKey := i.ruleKey
    ruleName := rule.name
    message := i.message
    severity := i.severity
    status := i.status
    resolution := i.resolution
    assignee := i.assignee.bind fun uuid => (users.filter fun u => u.uuid == uuid).getLast?
    file := (r.tree.fileComponents.filter fun c => c.key == i.component).getLast?.map
      fun c => ⟨c.key, c.name⟩ }

/-- The notices of new issues that a run over a store has to send. -/
def Store.newNotices (st : Store) (r : Request) : List Notice :=
  r.overallNotices st.issues (st.assigned st.issues) ++
    r.personalNotices st.issues (User.byUuid (st.select (r.owners st.issues)))

/-- All that a run over a store has to say, in order, with a gap for each changed issue whose rule
is not known. -/
def Store.agenda (st : Store) (r : Request) : List (Option Notice) :=
  (r.period.changed st.issues).map (r.decorated st.rules st.users) ++
    (st.newNotices r).map some

/-- What a run over a store has to say of some changed issues. -/
def Store.due (st : Store) (r : Request) (changed : List Issue) : List (Option Notice) :=
  changed.map (r.decorated st.rules st.users)

/-- The notices that a channel is handed, in order. -/
def heard (channel : Channel) (acts : List Act) : List Notice :=
  (acts.filterMap Act.event?).flatMap (handedTo channel)

theorem handedTo_eq_nil {channel : Channel} {e : Event} (h : e.isSending = false) :
    handedTo channel e = [] := by
  cases channel <;> cases e <;> first | rfl | exact absurd h (by simp [Event.isSending])

section Decorated

variable {σ : Type} {c : Collaborators σ} {st : Store} {r : Request}

theorem kind_of_decorated {rules : List Rule} {users : List User} {i : Issue} {n : Notice}
    (h : r.decorated rules users i = some n) : n.kind = .issueChanges := by
  obtain ⟨rule, -, rfl⟩ := Option.map_eq_some_iff.mp h
  rfl

/-- The first lookup of users is for the assignees of all issues and finds the last row of each. -/
theorem Store.getElem?_assigned {i : Issue} (hi : i ∈ st.issues) {uuid : String}
    (ha : i.assignee = some uuid) : (st.assigned st.issues)[uuid]? =
      (st.users.filter fun u => u.uuid == uuid).getLast? :=
  (Store.getElem?_select (mem_assignees.mpr ⟨i, hi, ha⟩)).trans (User.getElem?_byUuid _ _)

/-- On a branch that is not silent, notices name the branch unless it is the main one, and no pull
request. -/
theorem context_eq (hs : r.analysis.branch.isSilent = false) (users : Keyed User) :
    (r.desk users).draft.context = {
      key := r.tree.project.key
      name := r.tree.project.name
      branch := if r.analysis.branch.isMain then none else some r.analysis.branch.name
      pullRequest := none } := by
  have hlong : (r.analysis.branch.kind == .pullRequest) = false := by
    cases hk : r.analysis.branch.kind <;> simp [Branch.isSilent, hk] at hs ⊢
  unfold Request.desk Draft.context Analysis.noticeBranch Analysis.noticePullRequest
  rw [hlong, Bool.or_false]
  rfl

/-- **The notice of a changed issue is drafted as the rows dictate it.** -/
theorem decorated_of_drafts (hc : c.Serves st) (hs : r.analysis.branch.isSilent = false) {i : Issue}
    (hi : i ∈ st.issues) {notice : Notice}
    (hd : c.Drafts (r.desk (st.assigned st.issues)) i notice) :
    r.decorated st.rules st.users i = some notice := by
  obtain ⟨s, rule, hr, hn⟩ := hd
  have hrule : (st.rules.filter fun rule => rule.key == i.ruleKey).getLast? = some rule := by
    rw [← Rule.getElem?_byKey, ← hc.rule i.ruleKey s _ hr]
  have hassignee : (i.assignee.bind fun uuid => (st.assigned st.issues)[uuid]?) =
      i.assignee.bind fun uuid => (st.users.filter fun u => u.uuid == uuid).getLast? := by
    cases ha : i.assignee with
    | none => rfl
    | some uuid => exact Store.getElem?_assigned hi ha
  rw [← Except.ok.inj hn, Request.decorated, hrule, ← hassignee, ← context_eq hs]
  rfl

theorem map_some_of_drafts (hc : c.Serves st) (hs : r.analysis.branch.isSilent = false)
    {changed : List Issue} (hmem : ∀ i ∈ changed, i ∈ st.issues) {notices : List Notice}
    (h : List.Forall₂ (c.Drafts (r.desk (st.assigned st.issues))) changed notices) :
    notices.map some = changed.map (r.decorated st.rules st.users) := by
  induction h with
  | nil => rfl
  | cons hd _ ih =>
    rw [List.map_cons, List.map_cons, ih fun i hi => hmem i (List.mem_cons_of_mem _ hi),
      decorated_of_drafts hc hs (hmem _ List.mem_cons_self) hd]

end Decorated

/-! ## What the ledger says was said -/

/-- The notices that a channel was handed by the entries of a ledger. -/
def spoken (channel : Channel) (ledger : List Entry) : List Notice :=
  (ledger.map Entry.event).flatMap (handedTo channel)

theorem spoken_snoc (channel : Channel) (ledger : List Entry) (e : Entry) :
    spoken channel (ledger ++ [e]) = spoken channel ledger ++ handedTo channel e.event := by
  unfold spoken
  rw [List.map_append, List.flatMap_append, List.map_singleton, List.flatMap_singleton]

/-- A channel was handed exactly some part of the agenda. -/
def Said (channel : Channel) (said : List (Option Notice)) (ledger : List Entry) : Prop :=
  (spoken channel ledger).map some = said

/-- A channel was handed a beginning of some part of the agenda. -/
def Begun (channel : Channel) (due : List (Option Notice)) (ledger : List Entry) : Prop :=
  (spoken channel ledger).map some <+: due

section Said

variable {channel : Channel} {said : List (Option Notice)} {ledger : List Entry}

theorem Said.begun (h : Said channel said ledger) (more : List (Option Notice)) :
    Begun channel (said ++ more) ledger := by
  unfold Begun
  rw [h]
  exact List.prefix_append said more

theorem Said.begun_self (h : Said channel said ledger) : Begun channel said ledger :=
  List.append_nil said ▸ h.begun []

theorem Begun.mono {due due' : List (Option Notice)} (h : Begun channel due ledger)
    (hd : due <+: due') : Begun channel due' ledger :=
  h.trans hd

/-- An entry that hands nothing to the channel changes nothing. -/
theorem Said.enter (h : Said channel said ledger) {e : Entry} (he : handedTo channel e.event = []) :
    Said channel said (ledger ++ [e]) := by
  unfold Said
  rw [spoken_snoc, he, List.append_nil]
  exact h

/-- An entry of a call that hands over no notices changes nothing. -/
theorem Said.quiet (h : Said channel said ledger) {e : Entry} (he : e.event.isSending = false) :
    Said channel said (ledger ++ [e]) :=
  h.enter (handedTo_eq_nil he)

theorem Begun.quiet {due : List (Option Notice)} (h : Begun channel due ledger) {e : Entry}
    (he : e.event.isSending = false) : Begun channel due (ledger ++ [e]) := by
  unfold Begun
  rw [spoken_snoc, handedTo_eq_nil he, List.append_nil]
  exact h

/-- An entry that hands notices to the channel adds them. -/
theorem Said.hand (h : Said channel said ledger) {e : Entry} {notices : List Notice}
    (he : handedTo channel e.event = notices) :
    Said channel (said ++ notices.map some) (ledger ++ [e]) := by
  unfold Said
  rw [spoken_snoc, he, List.map_append, h]

end Said

/-! ## The parts of a run -/

variable {σ : Type} {c : Collaborators σ}

section Parts

variable {channel : Channel} {said : List (Option Notice)}

/-- **Both channels are handed the same notices in the same order**, the legacy one until a call
fails. -/
theorem send_said {kind : NoticeKind} {counted : Nat} {notices : List Notice}
    {counters : Counters} :
    Triple (Ledger (Said channel said)) (send c.withLedger kind counted notices counters)
      (fun _ => Ledger (Said channel (said ++ notices.map some)))
      fun _ => Ledger (Begun channel (said ++ notices.map some)) := by
  cases channel with
  | email =>
    refine Ledger.send_inOrder (I := fun _ _ => Said .email (said ++ notices.map some)) ?_ ?_ ?_ ?_
    · intro n ledger h
      exact h.hand rfl
    · intro ledger h
      exact (h.hand rfl).begun_self
    · intro front notice back hn n counters ledger h
      exact h.enter rfl
    · intro front notice back hn counters ledger h
      exact (h.enter rfl).begun_self
  | legacy =>
    refine Ledger.send_inOrder (I := fun front _ => Said .legacy (said ++ front.map some))
      ?_ ?_ ?_ ?_
    · intro n ledger h
      exact (List.append_nil said).symm ▸ h.enter rfl
    · intro ledger h
      exact (h.enter rfl).begun _
    · intro front notice back hn n counters ledger h
      rw [List.map_append, ← List.append_assoc]
      exact h.hand rfl
    · intro front notice back hn counters ledger h
      -- the notice was handed over, although the call failed
      have hhanded : Said .legacy (said ++ front.map some ++ [some notice])
          (ledger ++ [.sendSingle notice none]) := h.hand rfl
      rw [hn, List.map_append, List.map_cons, ← List.singleton_append, ← List.append_assoc,
        ← List.append_assoc]
      exact hhanded.begun _

/-- Nothing is said by asking for a stream. -/
theorem openStream_said (due : List (Option Notice)) :
    Triple (Ledger (Said channel said)) (.call .openStream c.withLedger.openStream)
      (fun _ => Ledger (Said channel said)) fun _ => Ledger (Begun channel (said ++ due)) :=
  Ledger.openStream (fun _ h => h.quiet rfl) fun _ h => (h.quiet rfl).begun due

variable {st : Store} {r : Request} (hc : c.Serves st)
include hc

/-- Nothing is said while users are looked up. -/
theorem resolveUsers_said (uuids : List String) (due : List (Option Notice)) :
    Triple (Ledger (Said channel said)) (c.withLedger.resolveUsers uuids)
      (fun users seen s => users = User.byUuid (st.select uuids) ∧
        Ledger (Said channel said) seen s)
      fun _ => Ledger (Begun channel (said ++ due)) :=
  (Ledger.resolveUsers uuids (fun _ h => h) (fun _ h => (h.quiet rfl).begun due)
    (fun _ h => (h.quiet rfl).quiet rfl) fun _ h => ((h.quiet rfl).quiet rfl).begun due).post
      fun _ _ _ h => ⟨hc.withLedger.eq_of_resolves h.1, h.2⟩

theorem assigneeUuids_said (due : List (Option Notice)) :
    Triple (Ledger (Said channel said)) (assigneeUuids c.withLedger)
      (fun uuids seen s => uuids = assignees st.issues ∧ Ledger (Said channel said) seen s)
      fun _ => Ledger (Begun channel (said ++ due)) := by
  refine .assigneeUuids (openStream_said due) (fun stream hs hb seen s h => ⟨?_, h.quiet rfl⟩)
    fun _ _ _ _ _ _ h => (h.quiet rfl).begun due
  rw [hc.withLedger.eq_of_gives ⟨stream, hs, hb, rfl⟩]

/-- The full chunks of what a stream gives are a beginning of all changed issues. -/
theorem flatten_fullChunks_changed {stream : List Read} (hstream : c.withLedger.Hands stream) :
    (fullChunks changeBatchSize (r.period.changed (readable stream))).flatten <+:
      r.period.changed st.issues := by
  obtain ⟨s, hs⟩ := hstream
  exact List.IsPrefix.trans
    ⟨_, flatten_fullChunks_append_leftover changeBatchSize (r.period.changed (readable stream))⟩
    ((hc.withLedger.stream s stream hs).filter _)

section Chunks

variable (hs : r.analysis.branch.isSilent = false)
include hs

/-- A chunk of changed issues is announced by the notices that the rows dictate. -/
theorem announceChunk_said (q : Counters × Nat) {chunk : List Issue}
    (hmem : ∀ i ∈ chunk, i ∈ st.issues) :
    let due := chunk.map (r.decorated st.rules st.users)
    Triple (Ledger (Said channel said))
      (announceChunk c.withLedger (r.desk (st.assigned st.issues)) q chunk)
      (fun _ => Ledger (Said channel (said ++ due)))
      fun _ => Ledger (Begun channel (said ++ due)) := by
  intro due
  refine Ledger.announceChunk (Q := fun _ => Said channel (said ++ due)) (fun _ h => h.begun due)
    fun notices hd _ _ => ?_
  rw [show due = notices.map some from (map_some_of_drafts hc.withLedger hs hmem hd).symm]
  exact send_said

/-- **Routing says what the changed issues call for**, chunk by chunk, and counts the new ones. -/
theorem routeIssues_said :
    Triple (Ledger (Said channel []))
      (routeIssues c.withLedger r.period (r.desk (st.assigned st.issues)))
      (fun p seen s => p.rollup = r.rollup st.issues ∧
        Ledger (Said channel (st.due r (r.period.changed st.issues))) seen s)
      fun _ => Ledger (Begun channel (st.due r (r.period.changed st.issues))) := by
  let due := st.due r (r.period.changed st.issues)
  let I (front : List (List Issue)) (_ : Counters) : Assertion (σ × List Entry) :=
    Ledger (Said channel (st.due r front.flatten))
  have hstep : ∀ front chunk, (front ++ [chunk]).flatten <+: r.period.changed st.issues →
      ∀ q : Counters × Nat, Triple (I front q.1)
        (announceChunk c.withLedger (r.desk (st.assigned st.issues)) q chunk)
        (fun q => I (front ++ [chunk]) q.1) fun _ => Ledger (Begun channel due) := by
    intro front chunk hfront q
    have hdue : st.due r (front ++ [chunk]).flatten = st.due r front.flatten ++ st.due r chunk := by
      simp [Store.due]
    have hmem : ∀ i ∈ chunk, i ∈ st.issues := fun i hi =>
      (LeakPeriod.mem_changed.mp (hfront.subset (by simp [hi]))).1
    simp only [I, hdue]
    refine (announceChunk_said hc hs q hmem).onError fun _ _ s h => Begun.mono h ?_
    exact hdue ▸ hfront.map _
  refine (Triple.routeIssues (I := I) (J := I) (F := fun _ => Ledger (Begun channel due))
    (openStream_said due) (fun stream hstream front chunk back hchunks q => hstep front chunk ?_ q)
    (fun _ _ _ _ s h => Said.quiet h rfl) (fun stream _ hstream _ _ _ s h => ?_)
    (fun _ _ s h => Begun.quiet h rfl) fun issues hg chunk hchunk q => ?_).post ?_
  · refine List.IsPrefix.trans ⟨back.flatten, ?_⟩ (flatten_fullChunks_changed hc hstream)
    rw [hchunks]
    simp
  · exact ((Said.begun_self h).mono ((flatten_fullChunks_changed hc hstream).map _)).quiet rfl
  · obtain rfl := hc.withLedger.eq_of_gives hg
    unfold chunks
    rw [lastChunk_eq_of_mem hchunk]
    have hprefix : (fullChunks changeBatchSize (r.period.changed st.issues) ++ [chunk]).flatten <+:
        r.period.changed st.issues := by
      rw [← lastChunk_eq_of_mem hchunk]
      exact ⟨[], (List.append_nil _).trans (flatten_chunks changeBatchSize _)⟩
    exact hstep _ chunk hprefix q
  · rintro p seen s ⟨issues, hg, hrollup, hsaid⟩
    obtain rfl := hc.withLedger.eq_of_gives hg
    simp only [I, flatten_chunks] at hsaid
    exact ⟨hrollup, hsaid⟩

end Chunks

omit hc in
theorem sendNewIssues_said (d : Desk) (rollup : Rollup) (counters : Counters) :
    let notice := Notice.newIssues (d.draft.newIssues rollup.overall d.users)
    Triple (Ledger (Said channel said)) (sendNewIssues c.withLedger d rollup counters)
      (fun _ => Ledger (Said channel (said ++ [some notice])))
      fun _ => Ledger (Begun channel (said ++ [some notice])) :=
  .sendNewIssues send_said

/-- The owners are told about their own new issues. -/
theorem sendMyNewIssues_said (users : Keyed User) (counters : Counters) :
    let mine := (r.personalNotices st.issues
      (User.byUuid (st.select (r.owners st.issues)))).map some
    Triple (Ledger (Said channel said))
      (sendMyNewIssues c.withLedger (r.desk users) (r.rollup st.issues) counters)
      (fun _ => Ledger (Said channel (said ++ mine)))
      fun _ => Ledger (Begun channel (said ++ mine)) := by
  intro mine
  refine .sendMyNewIssues (resolveUsers_said hc _ mine) (fun hnone personal _ s h => ?_)
    fun _ personal => .given ?_
  · have hmine : mine = [] := by
      rw [show mine = ((r.desk users).personal (r.rollup st.issues) personal).map some from
        h.1 ▸ congrArg (List.map some) (personal_eq r st.issues users _).symm, Desk.personal, hnone]
      rfl
    rw [hmine, List.append_nil]
    exact h.2
  · rintro rfl
    rw [personal_eq]
    exact send_said

omit hc in
/-- With an issue on the leak period, the notices of new issues are on the agenda. -/
theorem agenda_of_onLeak (hl : (r.rollup st.issues).overall.hasOnLeak = true) :
    st.agenda r = st.due r (r.period.changed st.issues) ++
      [some (r.overallNotice st.issues (st.assigned st.issues))] ++
        (r.personalNotices st.issues (User.byUuid (st.select (r.owners st.issues)))).map some := by
  rw [Store.agenda, Store.newNotices, Request.overallNotices, if_pos hl, List.map_append,
    ← List.append_assoc]
  rfl

omit hc in
theorem agenda_of_none (hl : (r.rollup st.issues).overall.hasOnLeak = false) :
    st.agenda r = st.due r (r.period.changed st.issues) := by
  have hnew : st.newNotices r = [] := by
    rw [Store.newNotices, Request.overallNotices, if_neg (by simp [hl]), Request.personalNotices,
      owners_eq_nil hl]
    rfl
  rw [Store.agenda, hnew, List.map_nil, List.append_nil]
  rfl

/-- **A run that sends all notices says what is on the agenda.** -/
theorem sendAll_said (hs : r.analysis.branch.isSilent = false) :
    Triple (Ledger (Said channel [])) (sendAll c.withLedger r)
      (fun _ => Ledger (Said channel (st.agenda r)))
      fun _ => Ledger (Begun channel (st.agenda r)) := by
  let due := st.due r (r.period.changed st.issues)
  let known (users : Keyed User) (p : Progress r.tree) : Prop :=
    users = st.assigned st.issues ∧ p.rollup = r.rollup st.issues
  let U (users : Keyed User) : Assertion (σ × List Entry) := fun seen s =>
    users = st.assigned st.issues ∧ Ledger (Said channel []) seen s
  let R (users : Keyed User) (p : Progress r.tree) : Assertion (σ × List Entry) := fun seen s =>
    known users p ∧ Ledger (Said channel due) seen s
  let N (users : Keyed User) (p : Progress r.tree) (_ : Counters) : Assertion (σ × List Entry) :=
    fun seen s => known users p ∧ Ledger (Said channel
      (due ++ [some (r.overallNotice st.issues (st.assigned st.issues))])) seen s
  refine .sendAll (U := U) (R := R) (N := N) (assigneeUuids_said hc (st.agenda r))
    (fun uuids => .given ?_) (fun users => .given fun hu => ?_)
    (fun users p hl => .given fun hp => ?_) (fun users p counters hl => .given fun hp => ?_)
    fun users p hl seen s h => ?_
  · rintro rfl
    exact resolveUsers_said hc _ (st.agenda r)
  · obtain rfl : users = st.assigned st.issues := hu
    refine (routeIssues_said hc hs).mono (fun _ _ h => h) (fun _ _ _ h => ⟨⟨rfl, h.1⟩, h.2⟩)
      fun _ _ _ h => Begun.mono h (List.prefix_append _ _)
  · obtain ⟨rfl, hp⟩ := hp
    rw [hp] at hl ⊢
    refine (sendNewIssues_said _ _ _).mono (fun _ _ h => h) (fun _ _ _ h => ⟨⟨rfl, hp⟩, h⟩)
      fun _ _ _ h => Begun.mono h ?_
    rw [agenda_of_onLeak hl]
    exact List.prefix_append _ _
  · obtain ⟨rfl, hp⟩ := hp
    rw [hp] at hl ⊢
    rw [agenda_of_onLeak hl]
    exact sendMyNewIssues_said hc _ counters
  · obtain ⟨⟨rfl, hp⟩, hsaid⟩ := h
    rw [hp] at hl
    rw [agenda_of_none hl]
    exact hsaid

end Parts

/-! ## Whole runs -/

/-- What a channel hears is what the ledger says was said. -/
theorem heard_eq_spoken (r : Request) (s : σ) (channel : Channel) :
    heard channel (execute c r s).acts =
      spoken channel (execute c.withLedger r (s, [])).state.2 := by
  rw [spoken, ← entered_execute, (execute_withLedger c r s []).acts,
    flatMap_entered _ fun e he => handedTo_eq_nil he, sendings,
    flatMap_filter fun e he => handedTo_eq_nil he]
  rfl

variable {st : Store}

/-- **What a run has to say it says in order, and all of it if it completes.** The collaborators
serve the store, and may fail at any call. -/
theorem heard_execute (hc : c.Serves st) (r : Request) (s : σ) (channel : Channel) :
    (heard channel (execute c r s).acts).map some <+: st.agenda r ∧
      ∀ counters, (execute c r s).result = .ok ⟨.completed, counters⟩ →
        (heard channel (execute c r s).acts).map some = st.agenda r := by
  cases hs : r.analysis.branch.isSilent with
  | true =>
    have hy := execute_silent (c := c) hs s
    have hnone : heard channel (execute c r s).acts = [] := by
      rw [execute_eq_skip c hs]
      cases channel <;> rfl
    rw [hnone, hy.result]
    refine ⟨?_, fun counters h => nomatch h⟩
    exact List.nil_prefix
  | false =>
    rw [heard_eq_spoken, ← (execute_withLedger c r s []).result, execute_eq_finish _ hs,
      finish_apply]
    have hrun : Triple (Ledger (Said channel [])) (sendIfWanted c.withLedger r)
        (fun response => Ledger fun ledger => Begun channel (st.agenda r) ledger ∧
          (response.ending = .completed → Said channel (st.agenda r) ledger))
        fun _ => Ledger (Begun channel (st.agenda r)) := by
      refine Ledger.sendIfWanted r ?_ (fun _ h => ⟨h.begun _, nofun⟩) fun _ h => h.begun _
      exact (sendAll_said hc hs).post fun _ _ _ h => ⟨Said.begun_self h, fun _ => h⟩
    obtain ⟨hok, herror⟩ := hrun [] (s, []) rfl
    cases hr : (sendIfWanted c.withLedger r (s, [])).result with
    | ok response =>
      obtain ⟨hbegun, hsaid⟩ := hok response hr
      exact ⟨hbegun, fun counters h => hsaid (Except.ok.inj h ▸ rfl)⟩
    | error e => exact ⟨herror e hr, fun counters h => nomatch h⟩

/-- What a completed run has said. -/
theorem heard_of_completed (hc : c.Serves st) {r : Request} {s : σ} {counters : Counters}
    (h : (execute c r s).result = .ok ⟨.completed, counters⟩) (channel : Channel) :
    heard channel (execute c r s).acts =
      (r.period.changed st.issues).filterMap (r.decorated st.rules st.users) ++
        st.newNotices r := by
  have hsaid := congrArg (List.filterMap id) ((heard_execute hc r s channel).2 counters h)
  rw [Store.agenda, List.filterMap_append, List.filterMap_map, List.filterMap_map,
    List.filterMap_map] at hsaid
  simpa using hsaid

/-! ## Change notices -/

/-- Each change notice that a run over a store hands over is the one that its issue dictates. On
each channel they come in the order of the issues, and if the run completes there is one for every
changed issue. -/
structure Decorates (st : Store) (r : Request) (o : Outcome σ Response) : Prop where
  beginning : ∀ channel, (notices channel .issueChanges o.acts).map some <+:
    (r.period.changed st.issues).map (r.decorated st.rules st.users)
  whole : ∀ counters, o.result = .ok ⟨.completed, counters⟩ → ∀ channel,
    (notices channel .issueChanges o.acts).map some =
      (r.period.changed st.issues).map (r.decorated st.rules st.users)

/-- Among what is on the agenda, the notices of changed issues and the gaps. -/
theorem filter_agenda (st : Store) (r : Request) :
    ((st.agenda r).filter fun n => n.all fun n => n.kind == .issueChanges) =
      (r.period.changed st.issues).map (r.decorated st.rules st.users) := by
  have hchange : ∀ due ∈ (r.period.changed st.issues).map (r.decorated st.rules st.users),
      (due.all fun n => n.kind == .issueChanges) = true := by
    intro due hdue
    obtain ⟨i, -, rfl⟩ := List.mem_map.mp hdue
    rw [Option.all_eq_true]
    exact fun n hn => beq_iff_eq.mpr (kind_of_decorated hn)
  have hnew : ∀ due ∈ (st.newNotices r).map some,
      ¬ (due.all fun n => n.kind == .issueChanges) = true := by
    intro due hdue
    obtain ⟨n, hn, rfl⟩ := List.mem_map.mp hdue
    rw [Option.all_some, beq_iff_eq]
    rcases List.mem_append.mp hn with hn | hn
    · rw [kind_of_mem_overallNotices hn]
      exact nofun
    · rw [kind_of_mem_personalNotices hn]
      exact nofun
  unfold Store.agenda
  rw [List.filter_append, List.filter_eq_self.mpr hchange, List.filter_eq_nil_iff.mpr hnew,
    List.append_nil]

theorem map_notices (channel : Channel) (acts : List Act) :
    (notices channel .issueChanges acts).map some =
      ((heard channel acts).map some).filter fun n => n.all fun n => n.kind == .issueChanges := by
  rw [List.filter_map]
  rfl

theorem decorates_execute (hc : c.Serves st) (r : Request) (s : σ) :
    Decorates st r (execute c r s) where
  beginning channel := by
    rw [map_notices, ← filter_agenda]
    exact (heard_execute hc r s channel).1.filter _
  whole counters h channel := by
    rw [map_notices, ← filter_agenda, (heard_execute hc r s channel).2 counters h]

/-- Drafting change notices does not depend on what was looked up in the index of files before: the
same calls are made and the same notices come out as with an index that was never used, and each of
them is the one that its issue dictates. -/
structure DraftsAlone (c : Collaborators σ) (st : Store) (r : Request) : Prop where
  transparent : ∀ (before : List String) (issues : List Issue) (s : σ),
    let d := r.desk (st.assigned st.issues)
    let o := draftChanges c d (({} : FileIndex d.tree).after before) issues s
    let p := draftChanges c d {} issues s
    o.acts = p.acts ∧ o.result.map Prod.fst = p.result.map Prod.fst ∧ o.state = p.state
  decorated : r.analysis.branch.isSilent = false → ∀ (before : List String) (issues : List Issue),
    (∀ i ∈ issues, i ∈ st.issues) → ∀ s notices index,
      let d := r.desk (st.assigned st.issues)
      (draftChanges c d (({} : FileIndex d.tree).after before) issues s).result =
        .ok (notices, index) → notices.map some = issues.map (r.decorated st.rules st.users)

/-- What is drafted with an index that looked keys up before, but for the index itself. -/
theorem draftChanges_after (c : Collaborators σ) (d : Desk) (before : List String)
    (issues : List Issue) (s : σ) :
    let o := draftChanges c d (({} : FileIndex d.tree).after before) issues s
    let p := draftAll c d issues s
    o.acts = p.acts ∧ o.result.map Prod.fst = p.result ∧ o.state = p.state := by
  rw [draftChanges_eq ⟨before, rfl⟩]
  intro o p
  cases hr : p.result with
  | error e =>
    have ho : o = _ := Traced.bind_of_error hr _
    rw [ho]
    exact ⟨rfl, rfl, rfl⟩
  | ok notices =>
    have ho : o = _ := Traced.bind_of_ok hr _
    rw [ho]
    exact ⟨List.append_nil _, rfl, rfl⟩

theorem draftsAlone (hc : c.Serves st) (r : Request) : DraftsAlone c st r where
  transparent before issues s := by
    intro d
    obtain ⟨hacts, hresult, hstate⟩ := draftChanges_after c d before issues s
    obtain ⟨hacts', hresult', hstate'⟩ := draftChanges_after c d [] issues s
    exact ⟨hacts.trans hacts'.symm, hresult.trans hresult'.symm, hstate.trans hstate'.symm⟩
  decorated hs before issues hmem s notices index h := by
    obtain ⟨-, hresult, -⟩ := draftChanges_after c (r.desk (st.assigned st.issues)) before issues s
    rw [h] at hresult
    exact map_some_of_drafts hc hs hmem (forall₂_drafts_of_ok hresult.symm)

/-- **Every change notice is decorated as its issue alone dictates**, in every run over a store and
in every run in which any of the calls fail, and whatever was looked up before it was drafted. -/
theorem changeNotices_decorated (st : Store) (r : Request) (u : Usage) (faults : List Fault)
    (counts : CallCounts) :
    Decorates st r (execute st.collaborators r u) ∧
      Decorates st r (execute (withFaults faults st.collaborators) r (u, counts)) ∧
      DraftsAlone st.collaborators st r ∧ DraftsAlone (withFaults faults st.collaborators) st r :=
  ⟨decorates_execute st.serves r u, decorates_execute (st.serves.withFaults faults) r (u, counts),
    draftsAlone st.serves r, draftsAlone (st.serves.withFaults faults) r⟩

end IssueNotice.Run
