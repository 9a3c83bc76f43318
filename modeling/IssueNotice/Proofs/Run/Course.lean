import IssueNotice.Proofs.Run.Triple

/-!
# What a run hands over

With collaborators that answer, what a run shows outside of it is fixed but for what they answer. A
`Course` is one way in which such a run can go: the users that were found, the change notices that
were drafted for each chunk, and how many recipients were reached. `sendAll_shows` follows a run
through the rules for its parts: it either takes a course to its end, or stops in front of the chunk
with an issue whose rule cannot be had. `sendAll_yields` and `sendAll_fails` are the two ends, for
rules that are all known and for a first rule that is lacking.
-/

namespace IssueNotice.Run

variable {σ : Type} {c : Collaborators σ} {issues : List Issue}

/-! ## What the notices of a request are drafted from -/

/-- The leak period of a request. -/
def Request.period (r : Request) : LeakPeriod := .ofAnalysisDate r.analysis.date

/-- The counted issues of a request, on the leak period or before it. -/
def Request.counted (r : Request) (issues : List Issue) : List (Issue × Bool) :=
  r.period.counted issues

/-- The statistics of all new issues. -/
def Request.rollup (r : Request) (issues : List Issue) : Rollup :=
  ({} : Rollup).addAll (r.counted issues)

/-- The notice of all new issues; it names the assignees with a user record. -/
def Request.overallNotice (r : Request) (issues : List Issue) (users : Keyed User) : Notice :=
  .newIssues ((r.desk users).draft.newIssues (r.rollup issues).overall users)

/-- The notice of the new issues of one assignee, addressed to the user record found for them. -/
def Request.personalNotice (r : Request) (issues : List Issue) (users : Keyed User)
    (uuid : String) : Notice :=
  .myNewIssues ((r.desk users).draft.myNewIssues uuid
    (({} : Statistics).addAll (ownIssues uuid (r.counted issues))) users[uuid]?)

/-- The uuids of the assignees with an issue on the leak period, in order and each once. -/
def Request.owners (r : Request) (issues : List Issue) : List String := (r.rollup issues).owners

/-- The notice of all new issues, if one of them is on the leak period. -/
def Request.overallNotices (r : Request) (issues : List Issue) (users : Keyed User) :
    List Notice :=
  if (r.rollup issues).overall.hasOnLeak then [r.overallNotice issues users] else []

/-- The notices of the owners, in the order of their uuids. -/
def Request.personalNotices (r : Request) (issues : List Issue) (users : Keyed User) :
    List Notice :=
  (r.owners issues).map (r.personalNotice issues users)

section Kinds

variable {r : Request} {users : Keyed User} {n : Notice}

theorem kind_of_mem_overallNotices (h : n ∈ r.overallNotices issues users) :
    n.kind = .newIssues := by
  unfold Request.overallNotices at h
  split at h
  · rw [List.mem_singleton.mp h]
    rfl
  · exact absurd h List.not_mem_nil

theorem kind_of_mem_personalNotices (h : n ∈ r.personalNotices issues users) :
    n.kind = .myNewIssues := by
  obtain ⟨uuid, -, rfl⟩ := List.mem_map.mp h
  rfl

end Kinds

/-- Notices handed to both channels; without notices nothing is. -/
def handedIfAny (notices : List Notice) : List Event :=
  if notices = [] then [] else handed notices

/--
One way in which a run that hands everything over can go: which users were found, which change
notices were drafted for each chunk of changed issues, and how many recipients were reached.
-/
structure Course (c : Collaborators σ) (r : Request) (issues : List Issue) where
  users : Keyed User
  batches : List (List Notice)
  /-- The users found for the owners. -/
  personal : Keyed User
  changeReach : List Nat
  newReach : List Nat
  personalReach : List Nat
  resolved : c.Resolves (assignees issues) users
  drafted : List.Forall₂ (List.Forall₂ (c.Drafts (r.desk users)))
    (chunks changeBatchSize (r.period.changed issues)) batches
  changesReached : List.Forall₂ c.Reaches (batches.flatMap handed) changeReach
  newReached : List.Forall₂ c.Reaches (handedIfAny (r.overallNotices issues users)) newReach
  personalResolved : c.Resolves (r.owners issues) personal
  personalReached :
    List.Forall₂ c.Reaches (handedIfAny (r.personalNotices issues personal)) personalReach

namespace Course

variable {r : Request}

/-- What a run of this course shows before its counters. -/
def seen (k : Course c r issues) : List Event :=
  Collaborators.lookups (assignees issues) ++ k.batches.flatMap handed ++
    (handedIfAny (r.overallNotices issues k.users) ++
      (Collaborators.lookups (r.owners issues) ++
        handedIfAny (r.personalNotices issues k.personal)))

/-- What a run of this course counts. -/
def counters (k : Course c r issues) : Counters where
  newIssues := ⟨(r.overallNotices issues k.users).length, total k.newReach⟩
  myNewIssues := ⟨(r.personalNotices issues k.personal).length, total k.personalReach⟩
  issueChanges := ⟨k.batches.length, total k.changeReach⟩

end Course

/-! ## What shows of collaborators that answer -/

/-- Exactly some events have shown. -/
def Shown (events : List Event) : Assertion σ := fun seen _ => seen = events

namespace Triple

variable {P : Assertion σ} {E : Failure → Assertion σ}

/-- A call that never fails, and that does not show. -/
theorem quiet {α : Type} {e : Event} {answer : Answer σ α} {events : List Event}
    (he : [e].filter Event.isOutward = []) (h : ∀ s, ∃ a, (answer s).1 = .ok a) :
    Triple (Shown events) (.call e answer) (fun _ => Shown events) E := by
  refine .call (fun seen s a hs _ => ?_) fun _ s f _ hf => ?_
  · rw [he, List.append_nil]
    exact hs
  · obtain ⟨a, ha⟩ := h s
    rw [ha] at hf
    cases hf

/-- A call that never fails, and that shows. -/
theorem shows {α : Type} {e : Event} {answer : Answer σ α} {events : List Event}
    (he : [e].filter Event.isOutward = [e]) (h : ∀ s, ∃ a, (answer s).1 = .ok a) :
    Triple (Shown events) (.call e answer)
      (fun a seen s => (∃ s, (answer s).1 = .ok a) ∧ Shown (events ++ [e]) seen s) E := by
  refine .call (fun seen s a hs ha => ⟨⟨s, ha⟩, ?_⟩) fun _ s f _ hf => ?_
  · rw [he]
    exact congrArg (· ++ [e]) hs
  · obtain ⟨a, ha⟩ := h s
    rw [ha] at hf
    cases hf

end Triple

section Answers

variable {E : Failure → Assertion σ} (h : c.Answers issues)
include h

/-- A stream that is handed out by collaborators who answer does not break. -/
theorem not_broken {stream : List Read} (hs : c.Hands stream) {e : Failure} :
    breakage stream ≠ some e := by
  rw [h.readable_of_hands hs, breakage_map_ok]
  exact nofun

theorem openStream_shows (events : List Event) :
    Triple (Shown events) (.call .openStream c.openStream) (fun _ => Shown events) E :=
  .quiet rfl fun s => ⟨_, h.stream s⟩

theorem assigneeUuids_shows (events : List Event) :
    Triple (Shown events) (assigneeUuids c)
      (fun uuids seen s => uuids = assignees issues ∧ Shown events seen s) E := by
  refine .assigneeUuids (openStream_shows h events) (fun stream hs hb seen s hseen => ?_) ?_
  · rw [h.gives ⟨stream, hs, hb, rfl⟩]
    exact ⟨rfl, hseen⟩
  · exact fun stream e hs hb => absurd hb (not_broken h hs)

theorem resolveUsers_shows (uuids : List String) (events : List Event) :
    Triple (Shown events) (c.resolveUsers uuids)
      (fun users seen s => c.Resolves uuids users ∧
        Shown (events ++ Collaborators.lookups uuids) seen s) E := by
  unfold Collaborators.Resolves Collaborators.lookups
  refine .resolveUsers (M := Shown events) (fun he seen s hseen => ?_)
    (fun _ => .quiet rfl fun s => ⟨_, h.session s⟩) fun he => ?_
  · rw [if_pos he, if_pos he, List.append_nil]
    exact ⟨rfl, hseen⟩
  · refine (Triple.shows rfl (h.users uuids)).post ?_
    rintro found seen s ⟨⟨s', hf⟩, hseen⟩
    rw [if_neg he, if_neg he]
    exact ⟨⟨s', found, hf, rfl⟩, hseen⟩

/-- Notices are handed to both channels, and what these reach is counted. -/
theorem send_shows (kind : NoticeKind) (counted : Nat) (notices : List Notice)
    (counters : Counters) (events : List Event) :
    Triple (Shown events) (send c kind counted notices counters)
      (fun counters' seen s => ∃ reached, (List.Forall₂ c.Reaches (handed notices) reached ∧
        counters' = (counters.addDeliveries kind (total reached)).addNotices kind counted) ∧
        Shown (events ++ handed notices) seen s) E := by
  let I (front : List Notice) (counters' : Counters) (seen : List Event) (s : σ) : Prop :=
    ∃ reached, (List.Forall₂ c.Reaches (.sendBulk notices :: front.map .sendSingle) reached ∧
      counters' = (counters.addDeliveries kind (total reached)).addNotices kind counted) ∧
      Shown (events ++ .sendBulk notices :: front.map .sendSingle) seen s
  refine .send_inOrder (I := I) ?_ fun front notice back _ counters' => ?_
  · refine (Triple.shows rfl (h.bulk notices)).post ?_
    rintro n seen s ⟨hn, hseen⟩
    exact ⟨[n], ⟨.cons hn .nil, by rw [total_cons, total_nil, Nat.add_zero]⟩, hseen⟩
  · refine .ofExists fun reached => .given fun ⟨hr, hcounters⟩ => ?_
    refine (Triple.shows rfl (h.single notice)).post ?_
    rintro n seen s ⟨hn, hseen⟩
    refine ⟨reached ++ [n], ⟨?_, ?_⟩, ?_⟩
    · rw [List.map_append]
      exact List.rel_append hr (.cons hn .nil)
    · rw [hcounters, Counters.addNotices_addDeliveries, Counters.addDeliveries_add, total_append,
        total_cons, total_nil, Nat.add_zero]
    · rw [List.append_assoc] at hseen
      rw [List.map_append]
      exact hseen

end Answers

/-- The notice of a changed issue is drafted, or its rule cannot be had; neither shows. -/
theorem draftChange_shows {d : Desk} {i : Issue} {file : Option Component} (events : List Event) :
    Triple (Shown events) (draftChange c d i file) (fun _ => Shown events)
      fun _ => Shown events := by
  refine .draftChange (.call (fun seen s rule hs _ => ?_) fun seen s f hs _ => ?_)
  · cases rule <;> exact (List.append_nil seen).symm ▸ hs
  · exact (List.append_nil seen).symm ▸ hs

/-! ## Chunks that are announced -/

section Chunks

variable (c) (d : Desk) (events : List Event)

/-- Behind some events and some chunks of changed issues, the notices of these were handed over and
counted, and nothing else. -/
def Announced (front : List (List Issue)) (counters : Counters) : Assertion σ := fun seen s =>
  ∃ batches reached, (List.Forall₂ (List.Forall₂ (c.Drafts d)) front batches ∧
    List.Forall₂ c.Reaches (batches.flatMap handed) reached ∧
    counters = (({} : Counters).addDeliveries .issueChanges (total reached)).addNotices
      .issueChanges batches.length) ∧
    Shown (events ++ batches.flatMap handed) seen s

/-- A run stopped in front of a chunk; the chunks before that one were handed over. -/
def Stopped (chunked : List (List Issue)) (e : Failure) : Assertion σ := fun seen s =>
  ∃ front chunk back batches, (chunked = front ++ chunk :: back ∧ Stops c d chunk e ∧
    List.Forall₂ (List.Forall₂ (c.Drafts d)) front batches) ∧
    Shown (events ++ batches.flatMap handed) seen s

variable {c d events} (h : c.Answers issues)
include h

theorem announceChunk_shows (front : List (List Issue)) (chunk : List Issue)
    (back : List (List Issue)) (q : Counters × Nat) :
    Triple (Announced c d events front q.1) (announceChunk c d q chunk)
      (fun q' => Announced c d events (front ++ [chunk]) q'.1)
      (Stopped c d events (front ++ chunk :: back)) := by
  refine .ofExists fun batches => .ofExists fun reached => .given fun ⟨hd, hr, hcounters⟩ => ?_
  refine .announceChunk (fun i _ => draftChange_shows _) (fun e he seen s hseen => ?_)
    fun notices hn => (send_shows h .issueChanges 1 notices q.1 _).post ?_
  · exact ⟨front, chunk, back, batches, ⟨rfl, he, hd⟩, hseen⟩
  · rintro counters seen s ⟨more, ⟨hmore, hq⟩, hseen⟩
    refine ⟨batches ++ [notices], reached ++ more, ⟨List.rel_append hd (.cons hn .nil), ?_, ?_⟩, ?_⟩
    · rw [List.flatMap_append, List.flatMap_singleton]
      exact List.rel_append hr hmore
    · rw [hq, hcounters, total_append, List.length_append, List.length_singleton,
        ← Counters.addDeliveries_add, ← Counters.addNotices_add, Counters.addNotices_addDeliveries]
    · rw [List.flatMap_append, List.flatMap_singleton, ← List.append_assoc]
      exact hseen

/-- **The chunks of the changed issues are handed over in order**, up to one with an issue whose
rule cannot be had. -/
theorem routeIssues_shows (period : LeakPeriod) :
    Triple (Shown events) (routeIssues c period d)
      (fun p seen s => p.rollup = ({} : Rollup).addAll (period.counted issues) ∧
        Announced c d events (chunks changeBatchSize (period.changed issues)) p.counters seen s)
      (Stopped c d events (chunks changeBatchSize (period.changed issues))) := by
  have hstart : ∀ seen (s : σ), Shown events seen s → Announced c d events [] {} seen s :=
    fun seen s hs => ⟨[], [], ⟨.nil, .nil, rfl⟩, (List.append_nil events).symm ▸ hs⟩
  refine (Triple.routeIssues (I := Announced c d events) (J := Announced c d events)
    (F := Stopped c d events (chunks changeBatchSize (period.changed issues)))
    ((openStream_shows h events).post fun _ => hstart) ?_ (fun _ _ _ _ _ ha => ha) ?_
    (fun _ _ _ hs => hs) ?_).post ?_
  · intro stream hs front chunk back hc q
    rw [h.readable_of_hands hs, readable_map_ok] at hc
    have hchunks : Triple (Announced c d events front q.1) _ _ _ :=
      announceChunk_shows h front chunk (back ++ lastChunk (leftover changeBatchSize (period.changed issues))) q
    rwa [← List.cons_append, ← List.append_assoc, ← hc] at hchunks
  · exact fun stream e hs hb => absurd hb (not_broken h hs)
  · intro issues' hg chunk hl q
    obtain rfl := h.gives hg
    have hlast : Triple (Announced c d events _ q.1) _ _ _ := announceChunk_shows h
      (fullChunks changeBatchSize (period.changed issues')) chunk [] q
    rwa [← lastChunk_eq_of_mem hl] at hlast
  · rintro p seen s ⟨issues', hg, hrollup, ha⟩
    obtain rfl := h.gives hg
    exact ⟨hrollup, ha⟩

end Chunks

/-! ## The notices of new issues -/

/-- No owner without a new issue on the leak period. -/
theorem owners_eq_nil {r : Request} (hl : (r.rollup issues).overall.hasOnLeak = false) :
    r.owners issues = [] := by
  by_contra hne
  obtain ⟨uuid, hu⟩ := List.exists_mem_of_ne_nil _ hne
  obtain ⟨p, hp, -, honLeak⟩ := Rollup.mem_owners_addAll.mp hu
  have ht : (r.rollup issues).overall.hasOnLeak = true := by
    rw [Request.rollup, Rollup.overall_addAll]
    exact (Statistics.hasOnLeak_addAll _).mpr ⟨p, hp, honLeak⟩
  rw [hl] at ht
  exact absurd ht Bool.false_ne_true

theorem personal_eq (r : Request) (issues : List Issue) (users personal : Keyed User) :
    (r.desk users).personal (r.rollup issues) personal = r.personalNotices issues personal := by
  rw [Desk.personal, Request.personalNotices, Request.owners, Request.rollup,
    Rollup.assigneesOnLeak_addAll, List.map_map]
  rfl

/-- Sending a notice of all new issues, and counting it. -/
theorem sendNewIssues_shows (h : c.Answers issues) {E : Failure → Assertion σ} (d : Desk)
    (rollup : Rollup) (counters : Counters) (events : List Event) :
    let notice := Notice.newIssues (d.draft.newIssues rollup.overall d.users)
    Triple (Shown events) (sendNewIssues c d rollup counters)
      (fun counters' seen s => ∃ reached, (List.Forall₂ c.Reaches (handed [notice]) reached ∧
        counters' = (counters.addDeliveries .newIssues (total reached)).addNotices .newIssues 1) ∧
        Shown (events ++ handed [notice]) seen s) E :=
  .sendNewIssues (send_shows h .newIssues 1 _ counters events)

/-- The personal notices go to the owners; without owners neither a user is looked up nor a notice
handed over. -/
theorem sendMyNewIssues_shows (h : c.Answers issues) {E : Failure → Assertion σ} (d : Desk)
    (rollup : Rollup) (counters : Counters) (events : List Event) :
    Triple (Shown events) (sendMyNewIssues c d rollup counters)
      (fun counters' seen s => ∃ users reached, (c.Resolves rollup.owners users ∧
        List.Forall₂ c.Reaches (handedIfAny (d.personal rollup users)) reached ∧
        counters' = (counters.addDeliveries .myNewIssues (total reached)).addNotices .myNewIssues
          (d.personal rollup users).length) ∧
        Shown (events ++ (Collaborators.lookups rollup.owners ++
          handedIfAny (d.personal rollup users))) seen s) E := by
  refine .sendMyNewIssues (resolveUsers_shows h rollup.owners events) ?_ fun hsome users =>
    .given fun hu => (send_shows h .myNewIssues _ _ counters _).post ?_
  · rintro hnone users seen s ⟨hu, hseen⟩
    have hn : d.personal rollup users = [] := List.map_eq_nil_iff.mpr hnone
    refine ⟨users, [], ⟨hu, hn ▸ .nil, ?_⟩, ?_⟩
    · rw [hn, total_nil, Counters.addDeliveries_zero]
      rfl
    · rw [hn, handedIfAny, if_pos rfl, List.append_nil]
      exact hseen
  · have hn : d.personal rollup users ≠ [] := fun he => hsome (List.map_eq_nil_iff.mp he)
    rintro counters' seen s ⟨reached, ⟨hr, hcounters⟩, hseen⟩
    refine ⟨users, reached, ⟨hu, ?_, hcounters⟩, ?_⟩
    · rw [handedIfAny, if_neg hn]
      exact hr
    · rw [handedIfAny, if_neg hn, ← List.append_assoc]
      exact hseen

/-! ## From the first chunk to the last notice -/

/-- The beginning of a course: all change notices are handed over. -/
structure Opening (c : Collaborators σ) (r : Request) (issues : List Issue) where
  users : Keyed User
  batches : List (List Notice)
  reach : List Nat
  resolved : c.Resolves (assignees issues) users
  drafted : List.Forall₂ (List.Forall₂ (c.Drafts (r.desk users)))
    (chunks changeBatchSize (r.period.changed issues)) batches
  reached : List.Forall₂ c.Reaches (batches.flatMap handed) reach

namespace Opening

variable {r : Request} (o : Opening c r issues)

/-- What has shown by then. -/
def seen : List Event :=
  Collaborators.lookups (assignees issues) ++ o.batches.flatMap handed

/-- What is counted by then. -/
def counters : Counters where
  issueChanges := ⟨o.batches.length, total o.reach⟩

/-- Without an issue on the leak period a course ends there. -/
theorem exists_course_of_none (hl : (r.rollup issues).overall.hasOnLeak = false) :
    ∃ k : Course c r issues, o.counters = k.counters ∧ o.seen = k.seen := by
  have hnew : r.overallNotices issues o.users = [] :=
    if_neg (by rw [hl]; exact Bool.false_ne_true)
  have howners : r.owners issues = [] := owners_eq_nil hl
  have hmine : r.personalNotices issues ∅ = [] := by
    rw [Request.personalNotices, howners, List.map_nil]
  refine ⟨⟨o.users, o.batches, ∅, o.reach, [], [], o.resolved, o.drafted, o.reached, ?_, ?_, ?_⟩,
    ?_, ?_⟩
  · rw [hnew]
    exact .nil
  · rw [howners]
    rfl
  · rw [hmine]
    exact .nil
  · simp [counters, Course.counters, hnew, hmine]
  · simp [seen, Course.seen, hnew, howners, hmine, handedIfAny, Collaborators.lookups]

/-- With an issue on the leak period the notices of new issues follow. -/
theorem exists_course (hl : (r.rollup issues).overall.hasOnLeak = true) {newReach : List Nat}
    (hnew : List.Forall₂ c.Reaches (handed [r.overallNotice issues o.users]) newReach)
    {personal : Keyed User} (hp : c.Resolves (r.owners issues) personal) {reach : List Nat}
    (hreach : List.Forall₂ c.Reaches (handedIfAny (r.personalNotices issues personal)) reach) :
    ∃ k : Course c r issues,
      (((o.counters.addDeliveries .newIssues (total newReach)).addNotices .newIssues
        1).addDeliveries .myNewIssues (total reach)).addNotices .myNewIssues
        (r.personalNotices issues personal).length = k.counters ∧
      o.seen ++ handed [r.overallNotice issues o.users] ++
        (Collaborators.lookups (r.owners issues) ++
          handedIfAny (r.personalNotices issues personal)) = k.seen := by
  have hone : r.overallNotices issues o.users = [r.overallNotice issues o.users] := if_pos hl
  refine ⟨⟨o.users, o.batches, personal, o.reach, newReach, reach, o.resolved, o.drafted, o.reached,
    hone ▸ hnew, hp, hreach⟩, ?_, ?_⟩
  · simp [counters, Course.counters, hone, Counters.addDeliveries, Counters.addNotices,
      Counters.modify]
  · simp [seen, Course.seen, hone, handedIfAny, List.append_assoc]

end Opening

/-- A run that is stopped while it announces the changed issues; the users were found by then. -/
def Halted (c : Collaborators σ) (r : Request) (issues : List Issue) (e : Failure) : Assertion σ :=
  fun seen s => ∃ users, c.Resolves (assignees issues) users ∧
    Stopped c (r.desk users) (Collaborators.lookups (assignees issues))
      (chunks changeBatchSize (r.period.changed issues)) e seen s

section SendAll

variable (h : c.Answers issues) (r : Request)
include h

/-- With its users found, a run opens with the change notices. -/
theorem opening_shows {users : Keyed User} (hu : c.Resolves (assignees issues) users) :
    Triple (Shown (Collaborators.lookups (assignees issues)))
      (routeIssues c r.period (r.desk users))
      (fun p seen s => ∃ o : Opening c r issues, (o.users = users ∧
        p.rollup = r.rollup issues ∧ p.counters = o.counters) ∧ Shown o.seen seen s)
      (Halted c r issues) := by
  refine (routeIssues_shows h r.period).mono (fun _ _ hs => hs) ?_
    fun e seen s hs => ⟨users, hu, hs⟩
  rintro p seen s ⟨hrollup, batches, reach, ⟨hd, hr, hcounters⟩, hseen⟩
  refine ⟨⟨users, batches, reach, hu, hd, hr⟩, ⟨rfl, hrollup, ?_⟩, hseen⟩
  simp [hcounters, Opening.counters, Counters.addDeliveries, Counters.addNotices, Counters.modify]

/-- **With collaborators that answer, a run takes a course**, unless a rule that cannot be had stops
it in front of a chunk. -/
theorem sendAll_shows :
    Triple (Shown []) (sendAll c r)
      (fun counters seen s => ∃ k : Course c r issues, counters = k.counters ∧ Shown k.seen seen s)
      (Halted c r issues) := by
  let Routed (users : Keyed User) (p : Progress r.tree) (seen : List Event) (s : σ) : Prop :=
    ∃ o : Opening c r issues, (o.users = users ∧ p.rollup = r.rollup issues ∧
      p.counters = o.counters) ∧ Shown o.seen seen s
  let Told (users : Keyed User) (p : Progress r.tree) (counters : Counters) (seen : List Event)
      (s : σ) : Prop :=
    ∃ (o : Opening c r issues) (reach : List Nat), (o.users = users ∧ p.rollup = r.rollup issues ∧
      List.Forall₂ c.Reaches (handed [r.overallNotice issues o.users]) reach ∧
      counters = (o.counters.addDeliveries .newIssues (total reach)).addNotices .newIssues 1) ∧
      Shown (o.seen ++ handed [r.overallNotice issues o.users]) seen s
  refine .sendAll (R := Routed) (N := Told) (assigneeUuids_shows h [])
    (fun uuids => .given ?_) (fun users => .given fun hu => opening_shows h r hu)
    (fun users p _ => .ofExists fun o => .given ?_)
    (fun users p counters hl => .ofExists fun o => .ofExists fun reach => .given ?_)
    fun users p hl seen s hp => ?_
  · rintro rfl
    exact resolveUsers_shows h (assignees issues) []
  · rintro ⟨rfl, hrollup, hcounters⟩
    rw [hrollup, hcounters]
    refine (sendNewIssues_shows h _ _ _ _).post ?_
    rintro counters seen s ⟨reach, ⟨hr, hq⟩, hseen⟩
    exact ⟨o, reach, ⟨rfl, hrollup, hr, hq⟩, hseen⟩
  · rintro ⟨rfl, hrollup, hn, rfl⟩
    rw [hrollup] at hl ⊢
    refine (sendMyNewIssues_shows h _ _ _ _).post ?_
    rintro counters seen s ⟨personal, reach, ⟨hp, hr, rfl⟩, hseen⟩
    rw [personal_eq] at hr hseen ⊢
    obtain ⟨k, hcounters, hk⟩ := o.exists_course hl hn hp hr
    exact ⟨k, hcounters, hk ▸ hseen⟩
  · obtain ⟨o, ⟨-, hrollup, hcounters⟩, hseen⟩ := hp
    rw [hrollup] at hl
    obtain ⟨k, hk, hks⟩ := o.exists_course_of_none hl
    exact ⟨k, hcounters.trans hk, hks ▸ hseen⟩

end SendAll

/-! ## The two ends -/

/-- A list is cut at one place only: what is in front of either cut is not what either cut is at. -/
theorem append_cons_inj {α : Type} {xs xs' ys ys' : List α} {a a' : α} {p q : α → Prop}
    (h : xs ++ a :: ys = xs' ++ a' :: ys') (hp : ∀ x ∈ xs, p x) (ha' : ¬ p a')
    (hq : ∀ x ∈ xs', q x) (ha : ¬ q a) : xs = xs' ∧ a = a' ∧ ys = ys' := by
  rcases List.append_eq_append_iff.mp h with ⟨front, rfl, hf⟩ | ⟨front, rfl, hf⟩
  all_goals cases front with
  | nil =>
    obtain ⟨rfl, rfl⟩ := List.cons.inj hf
    exact ⟨by rw [List.append_nil], rfl, rfl⟩
  | cons b front =>
    obtain ⟨rfl, -⟩ := List.cons.inj hf
    first
    | exact absurd (hq _ (List.mem_append_right _ List.mem_cons_self)) ha
    | exact absurd (hp _ (List.mem_append_right _ List.mem_cons_self)) ha'

section Rules

variable {d : Desk} {i : Issue}

theorem not_misses_of_knows {key : String} (h : c.Knows key) (e : Failure) : ¬ c.Misses key e := by
  rintro ⟨s, hs | ⟨hs, -⟩⟩
  all_goals
    obtain ⟨rule, hr⟩ := h s
    rw [hr] at hs
    cases hs

theorem eq_unknownRule_of_misses {key : String} {e : Failure} (h : c.Lacks key)
    (hm : c.Misses key e) : e = .unknownRule key := by
  obtain ⟨s, hs | ⟨-, rfl⟩⟩ := hm
  · rw [h s] at hs
    cases hs
  · rfl

theorem not_drafts_of_lacks (h : c.Lacks i.ruleKey) (notice : Notice) : ¬ c.Drafts d i notice := by
  rintro ⟨s, rule, hr, -⟩
  rw [h s] at hr
  cases hr

/-- Where notices were drafted, one was for each issue. -/
theorem exists_drafts_of_mem {chunk : List Issue} {notices : List Notice}
    (h : List.Forall₂ (c.Drafts d) chunk notices) : ∀ i ∈ chunk, ∃ notice, c.Drafts d i notice :=
  forall_mem_of_forall₂ (R := flip (c.Drafts d)) h.flip fun notice _ hd => ⟨notice, hd⟩

end Rules

/-- **With all rules known, a run whose gates are open takes its course.** -/
theorem sendAll_yields (h : c.Answers issues) (r : Request)
    (hk : ∀ i ∈ r.period.changed issues, c.Knows i.ruleKey) (s : σ) :
    ∃ (k : Course c r issues) (t : σ), (sendAll c r).Yields s k.seen (.ok k.counters) t := by
  have hgo : ∀ e seen s, ¬ Halted c r issues e seen s := by
    rintro e seen s ⟨users, -, front, chunk, back, batches, ⟨hc, hstop, -⟩, -⟩
    obtain ⟨known, i, more, rfl, -, hm⟩ := hstop
    have hi : i ∈ r.period.changed issues := by
      rw [← flatten_chunks changeBatchSize (r.period.changed issues), hc]
      simp
    exact not_misses_of_knows (hk i hi) e hm
  obtain ⟨counters, hok, k, rfl, hseen⟩ := (sendAll_shows h r).exists_ok hgo (s := s) rfl
  exact ⟨k, _, hseen, hok, rfl⟩

/-- **The first unknown rule ends a run**, behind the chunks in front of its own. -/
theorem sendAll_fails (h : c.Answers issues) {r : Request} {good rest : List (List Issue)}
    {known more : List Issue} {i : Issue}
    (hc : chunks changeBatchSize (r.period.changed issues) = good ++ (known ++ i :: more) :: rest)
    (hgood : ∀ chunk ∈ good, ∀ k ∈ chunk, c.Knows k.ruleKey)
    (hk : ∀ k ∈ known, c.Knows k.ruleKey) (hl : c.Lacks i.ruleKey) (s : σ) :
    ∃ users batches t, c.Resolves (assignees issues) users ∧
      List.Forall₂ (List.Forall₂ (c.Drafts (r.desk users))) good batches ∧
      (sendAll c r).Yields s (Collaborators.lookups (assignees issues) ++ batches.flatMap handed)
        (.error (.unknownRule i.ruleKey)) t := by
  have hstuck : ∀ users, ¬ ∃ notice, c.Drafts (r.desk users) i notice :=
    fun users ⟨notice, hd⟩ => not_drafts_of_lacks hl notice hd
  have hgo : ∀ counters seen (s : σ),
      ¬ ∃ k : Course c r issues, counters = k.counters ∧ Shown k.seen seen s := by
    rintro counters seen s ⟨k, -, -⟩
    obtain ⟨notices, hn⟩ := forall_mem_of_forall₂ (p := fun chunk => ∃ notices, _) (R := flip _)
      k.drafted.flip (fun notices _ hd => ⟨notices, hd⟩) (known ++ i :: more) (by rw [hc]; simp)
    exact hstuck k.users (exists_drafts_of_mem hn i (by simp))
  obtain ⟨e, herror, users, hu, front, chunk, back, batches, ⟨hcut, hstop, hd⟩, hseen⟩ :=
    (sendAll_shows h r).exists_error hgo (s := s) rfl
  obtain ⟨known', i', more', rfl, hknown, hm⟩ := hstop
  -- both cuts are at the first chunk with an issue that has no rule, and there at that issue
  obtain ⟨rfl, hchunk, -⟩ := append_cons_inj (hc.symm.trans hcut)
    (p := fun chunk => ∀ k ∈ chunk, c.Knows k.ruleKey) hgood
    (fun ha => not_misses_of_knows (ha i' (by simp)) e hm)
    (q := fun chunk => ∀ k ∈ chunk, ∃ notice, c.Drafts (r.desk users) k notice)
    (forall_mem_of_forall₂ (R := flip _) hd.flip fun notices _ hn => exists_drafts_of_mem hn)
    fun ha => hstuck users (ha i (by simp))
  obtain ⟨-, rfl, -⟩ := append_cons_inj hchunk (p := fun k => c.Knows k.ruleKey) hk
    (fun ha => not_misses_of_knows ha e hm)
    (q := fun k => ∃ notice, c.Drafts (r.desk users) k notice) hknown (hstuck users)
  obtain rfl := eq_unknownRule_of_misses hl hm
  exact ⟨users, batches, _, hu, hd, hseen, herror, rfl⟩

end IssueNotice.Run
