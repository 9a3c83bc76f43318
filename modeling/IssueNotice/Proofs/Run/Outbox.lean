import IssueNotice.Proofs.Run.Deliveries
import IssueNotice.Proofs.Run.IssueOrder
import IssueNotice.Proofs.Run.Ledger

/-!
# What the outbox of a store holds

The messaging service of a store records what it is handed. `outbox_execute` says that the outbox is
exactly that, in order: what was recorded for each call of the run that handed notices over.

A run over a store that ends well either handed nothing over or took its course
(`sendings_of_ok`). With a service that delivers to subscriptions, the outbox then has one record on
each channel for each notice of the course (`filter_channel_records`), and the counter of the
deliveries of a kind is the number of recipients in its records (`Course.deliveries_eq`).
-/

namespace IssueNotice.Run

/-- What a messaging service records of an event. -/
def Messaging.recorded (m : Messaging) : Event → List Delivery
  | .sendBulk notices => (m.bulk notices).1
  | .sendSingle notice => (m.single notice).1
  | _ => []

/-! ## The outbox and the calls of a run -/

/-- The outbox of a store is what was recorded for the entries of a ledger. -/
def Recorded (m : Messaging) (s : Usage × List Entry) : Prop :=
  s.1.outbox.toList = (s.2.map Entry.event).flatMap m.recorded

theorem Recorded.alike {α : Type} {m : Messaging} {answer : Answer Usage α}
    {entries : Except Failure α → List Entry}
    (h : ∀ u, (answer u).2.outbox.toList =
      u.outbox.toList ++ ((entries (answer u).1).map Entry.event).flatMap m.recorded) :
    AnswersAlike (fun s t => s = t ∧ Recorded m s) (answer.entering entries)
      (answer.entering entries) := by
  rintro ⟨u, ledger⟩ _ ⟨rfl, hs⟩
  refine ⟨rfl, rfl, ?_⟩
  unfold Recorded at hs ⊢
  change (answer u).2.outbox.toList = ((ledger ++ entries (answer u).1).map _).flatMap _
  rw [h u, hs, List.map_append, List.flatMap_append]

theorem Recorded.release {m : Messaging} {s : Usage × List Entry} (h : Recorded m s) {u : Usage}
    (hu : u.outbox = s.1.outbox) {e : Entry} (he : m.recorded e.event = []) :
    Recorded m (u, s.2 ++ [e]) := by
  unfold Recorded at h ⊢
  rw [hu, h, List.map_append, List.flatMap_append]
  simp [he]

/-- A store records what its collaborators are handed. -/
theorem Store.recorded_alike (st : Store) :
    CollaboratorsAlike (fun s t => s = t ∧ Recorded st.messaging s) st.collaborators.withLedger
      st.collaborators.withLedger where
  hasSubscribers _ _ := Recorded.alike fun _ => (List.append_nil _).symm
  openStream := Recorded.alike fun _ => (List.append_nil _).symm
  closeStream := by
    rintro s _ ⟨rfl, h⟩
    exact ⟨rfl, h.release rfl rfl⟩
  openSession := Recorded.alike fun _ => (List.append_nil _).symm
  selectUsers _ := Recorded.alike fun _ => (List.append_nil _).symm
  closeSession := by
    rintro s _ ⟨rfl, h⟩
    exact ⟨rfl, h.release rfl rfl⟩
  findRule _ := Recorded.alike fun _ => (List.append_nil _).symm
  sendBulk notices := Recorded.alike fun u => by
    simp [Store.collaborators, Usage.deliver, Messaging.recorded, Entry.event]
  sendSingle notice := Recorded.alike fun u => by
    simp [Store.collaborators, Usage.deliver, Messaging.recorded, Entry.event]

theorem flatMap_entered {α : Type} (g : Event → List α)
    (h : ∀ e, e.isSending = false → g e = []) (acts : List Act) :
    (entered acts).flatMap g = (sendings acts).flatMap g := by
  have hone : ∀ e, (Event.entered e).toList.flatMap g = g e := by
    intro e
    cases e with
    | openStream | openSession | closeSession | sendBulk | sendSingle => exact List.append_nil _
    | closeStream reads =>
      rw [h (.closeStream reads) rfl, ← h (.closeStream 0) rfl]
      exact List.append_nil _
    | _ => exact (h _ rfl).symm
  rw [sendings, flatMap_filter h, entered, List.filterMap_eq_flatMap_toList, List.flatMap_assoc]
  simp only [hone]

/-- **The outbox is what was recorded for each call that handed notices over**, in order. -/
theorem outbox_execute (st : Store) (r : Request) :
    (execute st.collaborators r {}).state.outbox.toList =
      (sendings (execute st.collaborators r {}).acts).flatMap st.messaging.recorded := by
  have hghost := execute_withLedger st.collaborators r {} []
  have hrecorded := (execute_alike (s := (({} : Usage), ([] : List Entry)))
    (Store.recorded_alike st) r ⟨rfl, rfl⟩).state.2
  rw [Recorded, ← entered_execute, hghost.acts, hghost.state] at hrecorded
  rw [hrecorded]
  refine flatMap_entered _ (fun e he => ?_) _
  cases e <;> first | rfl | exact absurd he (by simp [Event.isSending])

/-! ## Runs that end well -/

variable {st : Store} {r : Request} {u : Usage}

/-- **A run over a store that ends well handed nothing over or took its course.** -/
theorem sendings_of_ok {response : Response}
    (h : (execute st.collaborators r u).result = .ok response) :
    (response.ending ≠ .completed ∧ response.counters = {} ∧
      sendings (execute st.collaborators r u).acts = []) ∨
    ∃ k : Course st.collaborators r st.issues, response = ⟨.completed, k.counters⟩ ∧
      sendings (execute st.collaborators r u).acts = k.batches.flatMap handed ++
        (handedIfAny (r.overallNotices st.issues k.users) ++
          handedIfAny (r.personalNotices st.issues k.personal)) := by
  by_cases hs : r.analysis.branch.isSilent
  · have hy := execute_silent (c := st.collaborators) hs u
    obtain rfl := Except.ok.inj (h.symm.trans hy.result)
    exact .inl ⟨by decide, rfl, by rw [sendings_eq, hy.outward]; rfl⟩
  replace hs : r.analysis.branch.isSilent = false := by simpa using hs
  cases hw : st.messaging.hasSubscribers r.analysis.projectUuid NoticeKind.all with
  | false =>
    have hy := execute_unwanted (c := st.collaborators) hs (s := u) (congrArg Except.ok hw)
    obtain rfl := Except.ok.inj (h.symm.trans hy.result)
    exact .inl ⟨by decide, rfl, by rw [sendings_eq, hy.outward, filter_counters]⟩
  | true =>
    have hg : ∀ v, (st.collaborators.hasSubscribers r.analysis.projectUuid NoticeKind.all v).1 =
        .ok true := fun _ => congrArg Except.ok hw
    have hknows : ∀ i : Issue, ¬ st.collaborators.Lacks i.ruleKey →
        st.collaborators.Knows i.ruleKey := fun i => (st.knows_or_lacks i.ruleKey).resolve_right
    by_cases hlacks : ∃ i ∈ r.period.changed st.issues, st.collaborators.Lacks i.ruleKey
    · -- the first unknown rule would have ended the run
      obtain ⟨j, i, hj, hi, hfirst⟩ := exists_first hlacks
      obtain ⟨_, _, t, -, -, hy⟩ := execute_fails_at hs hg (Store.answers st) hj hi
        (fun k hk => hknows k (hfirst k hk)) u
      rw [hy.result] at h
      cases h
    · obtain ⟨k, t, hy⟩ := execute_yields hs hg (Store.answers st)
        (fun i hi => hknows i fun hl => hlacks ⟨i, hi, hl⟩) u
      refine .inr ⟨k, Except.ok.inj (h.symm.trans hy.result), ?_⟩
      rw [sendings_eq, hy.outward, List.filter_append, filter_counters, List.append_nil,
        k.sendings_seen]

/-! ## Stores that deliver to subscriptions -/

/-- The records of notices handed to both channels. -/
def records (subscriptions : List Subscription) (notices : List Notice) : List Delivery :=
  notices.map (Subscription.deliver subscriptions .email) ++
    notices.map (Subscription.deliver subscriptions .legacy)

section Subscribed

variable (projectUuid : String) (subscriptions : List Subscription)

theorem flatMap_handed_recorded (notices : List Notice) :
    (handed notices).flatMap (Messaging.subscribed projectUuid subscriptions).recorded =
      records subscriptions notices := by
  rw [handed, List.flatMap_cons, List.flatMap_map, records]
  congr 1
  exact List.flatMap_pure_eq_map _ notices

theorem reach_append (xs ys : List Delivery) :
    Messaging.reach (xs ++ ys) = Messaging.reach xs + Messaging.reach ys := by
  unfold Messaging.reach
  rw [List.map_append, total_append]

/-- What is recorded for a call reaches as many recipients as the call answers. -/
theorem reach_flatMap_recorded (events : List Event) :
    let m := Messaging.subscribed projectUuid subscriptions
    Messaging.reach (events.flatMap m.recorded) = total (events.map m.reachOf) := by
  intro m
  induction events with
  | nil => rfl
  | cons e rest ih =>
    have hone : Messaging.reach (m.recorded e) = m.reachOf e := by cases e <;> rfl
    rw [List.flatMap_cons, reach_append, ih, hone, List.map_cons, total_cons]

/-- Each notice handed over is recorded once on each channel. -/
theorem filter_channel_records (channel : Channel) (groups : List (List Notice)) :
    ((groups.flatMap (records subscriptions)).filter fun d => d.channel == channel) =
      groups.flatten.map (Subscription.deliver subscriptions channel) := by
  have hone : ∀ notices, ((records subscriptions notices).filter fun d => d.channel == channel) =
      notices.map (Subscription.deliver subscriptions channel) := by
    intro notices
    cases channel <;> simp [records, Subscription.deliver, List.filter_map, Function.comp_def]
  rw [List.filter_flatMap, List.map_flatten, ← List.flatMap_def]
  exact List.flatMap_congr fun notices _ => hone notices

/-- The records of notices of one kind are of that kind. -/
theorem filter_kind_records {kind : NoticeKind} {groups : List (List Notice)}
    (h : ∀ notices ∈ groups, ∀ n ∈ notices, n.kind = kind) (k : NoticeKind) :
    ((groups.flatMap (records subscriptions)).filter fun d => d.kind == k) =
      if k = kind then groups.flatMap (records subscriptions) else [] := by
  have hkind : ∀ d ∈ groups.flatMap (records subscriptions), d.kind = kind := by
    intro d hd
    obtain ⟨notices, hg, hd⟩ := List.mem_flatMap.mp hd
    rcases List.mem_append.mp hd with hd | hd
    all_goals
      obtain ⟨n, hn, rfl⟩ := List.mem_map.mp hd
      exact h notices hg n hn
  split
  · next hk => exact List.filter_eq_self.mpr fun d hd => by simp [hkind d hd, hk]
  · next hk => exact List.filter_eq_nil_iff.mpr fun d hd => by simp [hkind d hd, Ne.symm hk]

end Subscribed

/-- What a run over a store has to tell: a notice for each changed issue, the one about all new
issues, and those for the assignees of new issues. -/
def Store.Produces (st : Store) (r : Request) (produced : List Notice) : Prop :=
  let users := User.byUuid (st.select (assignees st.issues))
  let personal := User.byUuid (st.select (r.owners st.issues))
  ∃ changes, List.Forall₂ (st.collaborators.Drafts (r.desk users)) (r.period.changed st.issues)
    changes ∧ produced = changes ++ (r.overallNotices st.issues users ++
      r.personalNotices st.issues personal)

theorem handedIfAny_eq (notices : List Notice) :
    handedIfAny notices = (lastChunk notices).flatMap handed := by
  unfold handedIfAny lastChunk
  split
  · rfl
  · exact (List.append_nil _).symm

namespace Course

variable {projectUuid : String} {subscriptions : List Subscription}

/-- What a run of this course hands over for a kind of notice, one group after the other. -/
def groups (k : Course st.collaborators r st.issues) : NoticeKind → List (List Notice)
  | .issueChanges => k.batches
  | .newIssues => lastChunk (r.overallNotices st.issues k.users)
  | .myNewIssues => lastChunk (r.personalNotices st.issues k.personal)

/-- All that a run of this course hands over. -/
def allGroups (k : Course st.collaborators r st.issues) : List (List Notice) :=
  k.groups .issueChanges ++ (k.groups .newIssues ++ k.groups .myNewIssues)

theorem kind_of_mem_groups (k : Course st.collaborators r st.issues) {kind : NoticeKind} :
    ∀ notices ∈ k.groups kind, ∀ n ∈ notices, n.kind = kind := by
  intro notices hg n hn
  cases kind with
  | issueChanges => exact k.kind_of_mem_batches n (List.mem_flatten_of_mem hg hn)
  | newIssues =>
    rw [eq_of_mem_lastChunk hg] at hn
    exact kind_of_mem_overallNotices hn
  | myNewIssues =>
    rw [eq_of_mem_lastChunk hg] at hn
    exact kind_of_mem_personalNotices hn

/-- What a run of this course hands over is recorded group by group. -/
theorem flatMap_recorded (k : Course st.collaborators r st.issues) (projectUuid : String)
    (subscriptions : List Subscription) :
    (k.batches.flatMap handed ++ (handedIfAny (r.overallNotices st.issues k.users) ++
      handedIfAny (r.personalNotices st.issues k.personal))).flatMap
        (Messaging.subscribed projectUuid subscriptions).recorded =
      k.allGroups.flatMap (records subscriptions) := by
  simp only [handedIfAny_eq, ← List.flatMap_append, List.flatMap_assoc, flatMap_handed_recorded]
  rfl

theorem flatten_allGroups (k : Course st.collaborators r st.issues) :
    k.allGroups.flatten = k.batches.flatten ++
      (r.overallNotices st.issues k.users ++ r.personalNotices st.issues k.personal) := by
  simp only [allGroups, groups, List.flatten_append, flatten_lastChunk]

/-- The notices handed over are the ones that a store produces for a request. -/
theorem produces (k : Course st.collaborators r st.issues) :
    st.Produces r k.allGroups.flatten := by
  have husers := Store.resolves_iff.mp k.resolved
  have hpersonal := Store.resolves_iff.mp k.personalResolved
  have hdrafted := k.drafted_flatten
  rw [husers] at hdrafted
  refine ⟨_, hdrafted, ?_⟩
  rw [flatten_allGroups, husers, hpersonal]

/-- The records of one kind are those of the groups of that kind. -/
theorem filter_kind_allGroups (k : Course st.collaborators r st.issues)
    (subscriptions : List Subscription) (kind : NoticeKind) :
    ((k.allGroups.flatMap (records subscriptions)).filter fun d => d.kind == kind) =
      (k.groups kind).flatMap (records subscriptions) := by
  simp only [allGroups, List.flatMap_append, List.filter_append,
    filter_kind_records subscriptions k.kind_of_mem_groups]
  cases kind <;> simp

/-- **The counter of the deliveries of a kind is the number of recipients in its records.** -/
theorem deliveries_eq (k : Course st.collaborators r st.issues)
    (hm : st.messaging = .subscribed projectUuid subscriptions) (kind : NoticeKind) :
    (k.counters.get kind).deliveries =
      Messaging.reach ((k.groups kind).flatMap (records subscriptions)) := by
  have hreach : (k.counters.get kind).deliveries =
      total (((k.groups kind).flatMap handed).map st.messaging.reachOf) := by
    cases kind with
    | issueChanges => exact congrArg total (Store.reached_eq k.changesReached)
    | newIssues =>
      rw [groups, ← handedIfAny_eq]
      exact congrArg total (Store.reached_eq k.newReached)
    | myNewIssues =>
      rw [groups, ← handedIfAny_eq]
      exact congrArg total (Store.reached_eq k.personalReached)
  rw [hreach, hm, ← reach_flatMap_recorded, List.flatMap_assoc]
  simp only [flatMap_handed_recorded]

end Course

end IssueNotice.Run
