import IssueNotice.Proofs.Run.Agenda

/-!
# Who receives what

Runs share a messaging service, one after the other, each over rows of its own and with calls that
are to fail (`Job`). The service delivers to subscriptions and keeps a record of each delivery.
`recipients_outboxAfter` says of every record which notice it is of, in which run that was handed
over, and who received it: the subscribers of the channel who want that kind, and of a personal
notice only those with the login of its assignee.

A record is of a notice that was handed over (`Collaborators.Records.mem_outbox_execute`, by the
ledger of the run), and the user in a personal notice is the last row with the uuid of the assignee
(`assignee_of_heard`, by the agenda of the run).
-/

namespace IssueNotice

open Run

/-! ## What is recorded -/

/-- What a messaging service records for an entry of a ledger: nothing if the call failed. -/
def Run.Messaging.filed (m : Messaging) : Entry → List Delivery
  | .sendBulk notices (some _) => (m.bulk notices).1
  | .sendSingle notice (some _) => (m.single notice).1
  | _ => []

/-- An answer adds to an outbox, depending on what it is. -/
def Answer.Adds {σ α : Type} (answer : Answer σ α) (outbox : σ → List Delivery)
    (more : Except Failure α → List Delivery) : Prop :=
  ∀ s, outbox (answer s).2 = outbox s ++ more (answer s).1

/-- A call that fails as planned adds nothing. -/
theorem Answer.Adds.unlessPlanned {σ α : Type} {answer : Answer σ α} {outbox : σ → List Delivery}
    {more : Except Failure α → List Delivery} (h : answer.Adds outbox more)
    (hmore : ∀ e, more (.error e) = []) (failure : Option Failure)
    (failed carriedOut : CallCounts) :
    (Run.unlessPlanned failure answer failed carriedOut).Adds (fun s => outbox s.1) more := by
  intro s
  cases failure with
  | none => exact h s.1
  | some e =>
    change outbox s.1 = outbox s.1 ++ more (.error e)
    rw [hmore e, List.append_nil]

namespace Collaborators

variable {σ : Type}

/-- The collaborators record what they are handed in calls that do not fail, and nothing else. -/
structure Records (c : Collaborators σ) (m : Messaging) (outbox : σ → List Delivery) : Prop where
  hasSubscribers : ∀ uuid kinds, (c.hasSubscribers uuid kinds).Adds outbox fun _ => []
  openStream : c.openStream.Adds outbox fun _ => []
  closeStream : ∀ s, outbox (c.closeStream s) = outbox s
  openSession : c.openSession.Adds outbox fun _ => []
  selectUsers : ∀ uuids, (c.selectUsers uuids).Adds outbox fun _ => []
  closeSession : ∀ s, outbox (c.closeSession s) = outbox s
  findRule : ∀ key, (c.findRule key).Adds outbox fun _ => []
  sendBulk : ∀ notices,
    (c.sendBulk notices).Adds outbox fun r => m.filed (.sendBulk notices r.toOption)
  sendSingle : ∀ notice,
    (c.sendSingle notice).Adds outbox fun r => m.filed (.sendSingle notice r.toOption)

variable {c : Collaborators σ} {m : Messaging} {outbox : σ → List Delivery}

/-- **Collaborators still record what they are handed when they are made to fail.** -/
theorem Records.withFaults (h : c.Records m outbox) (faults : List Fault) :
    (Run.withFaults faults c).Records m fun s => outbox s.1 where
  hasSubscribers uuid kinds s :=
    (h.hasSubscribers uuid kinds).unlessPlanned (fun _ => rfl) _ _ _ s
  openStream s := h.openStream.unlessPlanned (fun _ => rfl) _ _ _ s
  closeStream s := h.closeStream s.1
  openSession s := h.openSession.unlessPlanned (fun _ => rfl) _ _ _ s
  selectUsers uuids s := (h.selectUsers uuids).unlessPlanned (fun _ => rfl) _ _ _ s
  closeSession s := h.closeSession s.1
  findRule key s := (h.findRule key).unlessPlanned (fun _ => rfl) _ _ _ s
  sendBulk notices s := (h.sendBulk notices).unlessPlanned (fun _ => rfl) _ _ _ s
  sendSingle notice s := (h.sendSingle notice).unlessPlanned (fun _ => rfl) _ _ _ s

/-! ## The outbox behind a run -/

/-- An outbox has grown by what was recorded for the entries of a ledger. -/
def Filed (m : Messaging) (outbox : σ → List Delivery) (start : List Delivery)
    (s : σ × List Entry) : Prop :=
  outbox s.1 = start ++ s.2.flatMap m.filed

section Filed

variable {start : List Delivery}

theorem Filed.alike {α : Type} {answer : Answer σ α} {entries : Except Failure α → List Entry}
    (h : answer.Adds outbox fun r => (entries r).flatMap m.filed) :
    AnswersAlike (fun s t => s = t ∧ Filed m outbox start s) (answer.entering entries)
      (answer.entering entries) := by
  rintro ⟨s, ledger⟩ _ ⟨rfl, hs⟩
  refine ⟨rfl, rfl, ?_⟩
  unfold Filed at hs ⊢
  change outbox (answer s).2 = start ++ (ledger ++ entries (answer s).1).flatMap m.filed
  rw [h s, hs, List.flatMap_append, List.append_assoc]

/-- Taking something back is entered and adds nothing. -/
theorem Filed.release {s : σ × List Entry} (h : Filed m outbox start s) {t : σ}
    (ht : outbox t = outbox s.1) {e : Entry} (he : m.filed e = []) :
    Filed m outbox start (t, s.2 ++ [e]) := by
  unfold Filed at h ⊢
  rw [ht, h, List.flatMap_append, List.flatMap_singleton, he, List.append_nil]

theorem Records.alike (h : c.Records m outbox) :
    CollaboratorsAlike (fun s t => s = t ∧ Filed m outbox start s) c.withLedger c.withLedger where
  hasSubscribers uuid kinds := Filed.alike (h.hasSubscribers uuid kinds)
  openStream := Filed.alike h.openStream
  closeStream := by
    rintro s _ ⟨rfl, hs⟩
    exact ⟨rfl, hs.release (h.closeStream s.1) rfl⟩
  openSession := Filed.alike h.openSession
  selectUsers uuids := Filed.alike (h.selectUsers uuids)
  closeSession := by
    rintro s _ ⟨rfl, hs⟩
    exact ⟨rfl, hs.release (h.closeSession s.1) rfl⟩
  findRule key := Filed.alike (h.findRule key)
  sendBulk notices := Filed.alike fun s => by simpa using h.sendBulk notices s
  sendSingle notice := Filed.alike fun s => by simpa using h.sendSingle notice s

end Filed

/-- **A run adds to the outbox what is recorded for the entries of its ledger**, in order. -/
theorem Records.outbox_execute (h : c.Records m outbox) (r : Request) (s : σ) :
    outbox (execute c r s).state =
      outbox s ++ (execute c.withLedger r (s, [])).state.2.flatMap m.filed := by
  have hstart : Filed m outbox (outbox s) (s, []) := (List.append_nil (outbox s)).symm
  rw [← (execute_withLedger c r s []).state]
  exact (execute_alike h.alike r ⟨rfl, hstart⟩).state.2

/-- **What is recorded is of a notice that was handed over.** -/
theorem Records.mem_outbox_execute {projectUuid : String} {subscriptions : List Subscription}
    (h : c.Records (.subscribed projectUuid subscriptions) outbox) {r : Request} {s : σ}
    {d : Delivery} (hd : d ∈ outbox (execute c r s).state) :
    d ∈ outbox s ∨ ∃ n ∈ heard d.channel (execute c r s).acts,
      d = Subscription.deliver subscriptions d.channel n := by
  rw [h.outbox_execute, List.mem_append, List.mem_flatMap] at hd
  refine hd.imp_right ?_
  rintro ⟨e, he, hd⟩
  have hof : ∃ n ∈ handedTo d.channel e.event,
      d = Subscription.deliver subscriptions d.channel n := by
    unfold Messaging.filed at hd
    split at hd
    · obtain ⟨n, hn, rfl⟩ := List.mem_map.mp hd
      exact ⟨n, hn, rfl⟩
    · next notice _ =>
      obtain rfl := List.mem_singleton.mp hd
      exact ⟨notice, List.mem_singleton_self notice, rfl⟩
    · exact absurd hd List.not_mem_nil
  obtain ⟨n, hn, hd⟩ := hof
  refine ⟨n, ?_, hd⟩
  rw [heard_eq_spoken]
  exact List.mem_flatMap.mpr ⟨e.event, List.mem_map_of_mem he, hn⟩

end Collaborators

namespace Run

/-- The collaborators of a store record what they are handed. -/
theorem Store.records (st : Store) :
    st.collaborators.Records st.messaging fun u => u.outbox.toList where
  hasSubscribers _ _ _ := (List.append_nil _).symm
  openStream _ := (List.append_nil _).symm
  closeStream _ := rfl
  openSession _ := (List.append_nil _).symm
  selectUsers _ _ := (List.append_nil _).symm
  closeSession _ := rfl
  findRule _ _ := (List.append_nil _).symm
  sendBulk notices u := by
    simp [Store.collaborators, Usage.deliver, Messaging.filed, Except.toOption]
  sendSingle notice u := by
    simp [Store.collaborators, Usage.deliver, Messaging.filed, Except.toOption]

/-! ## Whom a personal notice is for -/

/-- The user whom a personal notice is for: the last row with the uuid of the assignee. -/
def addressee (users : List User) (n : MyNewIssuesNotice) : Option User :=
  (users.filter fun u => u.uuid == n.assigneeUuid).getLast?

/-- **The user in a personal notice is the one whom it is for.** -/
theorem assignee_of_heard {σ : Type} {c : Collaborators σ} {st : Store} (hc : c.Serves st)
    {r : Request} {s : σ} {channel : Channel} {n : MyNewIssuesNotice}
    (h : .myNewIssues n ∈ heard channel (execute c r s).acts) :
    n.assignee = addressee st.users n := by
  have hagenda : some (.myNewIssues n) ∈ st.agenda r :=
    (heard_execute hc r s channel).1.subset (List.mem_map_of_mem h)
  rcases List.mem_append.mp hagenda with hchange | hnew
  · obtain ⟨i, -, hi⟩ := List.mem_map.mp hchange
    exact absurd (kind_of_decorated hi) nofun
  · obtain ⟨n', hn, hsome⟩ := List.mem_map.mp hnew
    obtain rfl := Option.some.inj hsome
    rcases List.mem_append.mp hn with hn | hn
    · exact absurd (kind_of_mem_overallNotices hn) nofun
    · obtain ⟨uuid, hu, hcontent⟩ := List.mem_map.mp hn
      obtain rfl := Notice.myNewIssues.inj hcontent
      exact (Store.getElem?_select hu).trans (User.getElem?_byUuid _ _)

/-- Whether a notice is meant for a login: a personal one for that of its addressee alone. -/
def meantFor (users : List User) (login : String) : Notice → Bool
  | .myNewIssues n => (addressee users n).any fun u => u.login == login
  | _ => true

/-- A record is of a notice and has its right recipients. -/
structure Received (subscriptions : List Subscription) (users : List User) (n : Notice)
    (d : Delivery) : Prop where
  kind : d.kind = n.kind
  subject : d.subject = n.subject
  /-- In the order of the subscriptions: those of the channel who want the kind, and of a personal
  notice only those with the login of its addressee. -/
  recipients : d.recipients = (subscriptions.filter fun s => s.channel == d.channel &&
    s.kinds.contains d.kind && meantFor users s.login n).map Subscription.login
  /-- Everybody reached wanted the kind on this channel. -/
  wanted : ∀ login ∈ d.recipients,
    ∃ s ∈ subscriptions, s.login = login ∧ s.channel = d.channel ∧ d.kind ∈ s.kinds
  /-- A personal notice reaches nobody but its addressee. -/
  personal : ∀ m, n = .myNewIssues m → ∀ login ∈ d.recipients,
    ∃ u, addressee users m = some u ∧ u.login = login
  /-- Without a user row for its assignee it reaches nobody. -/
  unknown : ∀ m, n = .myNewIssues m → (∀ u ∈ users, u.uuid ≠ m.assigneeUuid) → d.recipients = []

/-- **A delivered notice is received by whom it is meant for**, if it has the right user. -/
theorem received_deliver (subscriptions : List Subscription) (channel : Channel)
    {users : List User} {n : Notice}
    (h : ∀ m, n = .myNewIssues m → m.assignee = addressee users m) :
    Received subscriptions users n (Subscription.deliver subscriptions channel n) := by
  have hmeant : ∀ login, Subscription.isAddressee login n = meantFor users login n := by
    intro login
    cases n with
    | myNewIssues m => exact congrArg (Option.any _) (h m rfl)
    | change | newIssues => rfl
  have hrecipients : (Subscription.deliver subscriptions channel n).recipients =
      (subscriptions.filter fun s => s.channel == channel && s.kinds.contains n.kind &&
        meantFor users s.login n).map Subscription.login := by
    simp only [← hmeant]
    rfl
  have hreached : ∀ login ∈ (Subscription.deliver subscriptions channel n).recipients,
      ∃ s ∈ subscriptions, s.login = login ∧ s.channel = channel ∧ n.kind ∈ s.kinds ∧
        meantFor users login n = true := by
    intro login hl
    rw [hrecipients] at hl
    obtain ⟨s, hs, rfl⟩ := List.mem_map.mp hl
    simp only [List.mem_filter, Bool.and_eq_true, beq_iff_eq, List.contains_iff_mem] at hs
    exact ⟨s, hs.1, rfl, hs.2.1.1, hs.2.1.2, hs.2.2⟩
  have hpersonal : ∀ m, n = .myNewIssues m →
      ∀ login ∈ (Subscription.deliver subscriptions channel n).recipients,
        ∃ u, addressee users m = some u ∧ u.login = login := by
    rintro m rfl login hl
    obtain ⟨s, -, -, -, -, hfor⟩ := hreached login hl
    obtain ⟨u, hu, hlogin⟩ := (Option.any_eq_true _ _).mp hfor
    exact ⟨u, hu, beq_iff_eq.mp hlogin⟩
  exact {
    kind := rfl
    subject := rfl
    recipients := hrecipients
    wanted := fun login hl => by
      obtain ⟨s, hs, hlogin, hchannel, hkind, -⟩ := hreached login hl
      exact ⟨s, hs, hlogin, hchannel, hkind⟩
    personal := hpersonal
    unknown := fun m hm hnone => by
      refine List.eq_nil_iff_forall_not_mem.mpr fun login hl => ?_
      obtain ⟨u, hu, -⟩ := hpersonal m hm login hl
      obtain ⟨hmem, huuid⟩ := List.mem_filter.mp (List.mem_of_getLast? hu)
      exact hnone u hmem (beq_iff_eq.mp huuid) }

/-! ## Runs one after the other -/

/-- A run, the rows that it works on and the calls in it that are to fail. -/
structure Job where
  issues : List Issue
  rules : List Rule
  users : List User
  request : Request
  faults : List Fault := []

/-- The rows of a job, with a messaging service. -/
def Job.store (j : Job) (m : Messaging) : Store := ⟨j.issues, j.rules, j.users, m⟩

/-- The run of a job against a messaging service. -/
def Job.run (j : Job) (m : Messaging) (s : Usage × CallCounts) :
    Outcome (Usage × CallCounts) Response :=
  execute (withFaults j.faults (j.store m).collaborators) j.request s

/-- A job in which no call is to fail is a run over its rows. -/
theorem Job.run_alike {j : Job} (hj : j.faults = []) (m : Messaging) (u : Usage)
    (counts : CallCounts) : OutcomeAlike (fun s t => s.1 = t) (j.run m (u, counts))
      (execute (j.store m).collaborators j.request u) := by
  unfold Job.run
  rw [hj]
  exact execute_withFaults_nil _ _ _ _

/-- What some jobs leave behind, one after the other. -/
def stateAfter (m : Messaging) (jobs : List Job) : Usage × CallCounts :=
  jobs.foldl (fun s j => (j.run m s).state) ({}, {})

theorem stateAfter_snoc (m : Messaging) (jobs : List Job) (j : Job) :
    stateAfter m (jobs ++ [j]) = (j.run m (stateAfter m jobs)).state := by
  unfold stateAfter
  rw [List.foldl_append, List.foldl_cons, List.foldl_nil]

theorem stateAfter_singleton (m : Messaging) (j : Job) :
    stateAfter m [j] = (j.run m ({}, {})).state := rfl

/-- **Who received what.** Runs go one after the other, with any calls failing, against one service
that delivers to subscriptions. Each record in its outbox is of a notice that one of the runs handed
to that channel, and was received by those whom the notice is meant for. -/
theorem recipients_outboxAfter {projectUuid : String} {subscriptions : List Subscription}
    {jobs : List Job} {d : Delivery}
    (hd : d ∈ (stateAfter (.subscribed projectUuid subscriptions) jobs).1.outbox.toList) :
    ∃ before job after n, jobs = before ++ job :: after ∧
      n ∈ heard d.channel (job.run (.subscribed projectUuid subscriptions)
        (stateAfter (.subscribed projectUuid subscriptions) before)).acts ∧
      Received subscriptions job.users n d := by
  let m := Messaging.subscribed projectUuid subscriptions
  induction jobs using List.reverseRecOn with
  | nil => exact absurd hd List.not_mem_nil
  | append_singleton jobs job ih =>
    have hrecords := (job.store m).records.withFaults job.faults
    have hserves := (job.store m).serves.withFaults job.faults
    rw [stateAfter_snoc] at hd
    rcases hrecords.mem_outbox_execute hd with hd | ⟨n, hn, hd⟩
    · obtain ⟨before, job', after, n, rfl, hn, hr⟩ := ih hd
      refine ⟨before, job', after ++ [job], n, ?_, hn, hr⟩
      rw [List.append_assoc, List.cons_append]
    · refine ⟨jobs, job, [], n, rfl, hn, ?_⟩
      rw [hd]
      refine received_deliver subscriptions d.channel fun m hm => ?_
      rw [hm] at hn
      exact assignee_of_heard hserves hn

/-- A delivery of each notice that a run over a store handed over is in the outbox. -/
theorem deliver_mem_outbox {st : Store} {projectUuid : String} {subscriptions : List Subscription}
    (hm : st.messaging = .subscribed projectUuid subscriptions) {r : Request} {channel : Channel}
    {n : Notice} (h : n ∈ heard channel (execute st.collaborators r {}).acts) :
    Subscription.deliver subscriptions channel n ∈
      (execute st.collaborators r {}).state.outbox.toList := by
  obtain ⟨e, he, hn⟩ := List.mem_flatMap.mp h
  rw [outbox_execute, hm]
  cases channel with
  | email =>
    cases e with
    | sendBulk notices =>
      exact List.mem_flatMap.mpr ⟨_, List.mem_filter.mpr ⟨he, rfl⟩, List.mem_map_of_mem hn⟩
    | _ => exact absurd hn List.not_mem_nil
  | legacy =>
    cases e with
    | sendSingle notice =>
      obtain rfl := List.mem_singleton.mp hn
      exact List.mem_flatMap.mpr ⟨_, List.mem_filter.mpr ⟨he, rfl⟩, List.mem_singleton_self _⟩
    | _ => exact absurd hn List.not_mem_nil

/-- A run over the issues of the small store, whose assignee is a user. -/
def sampleJob : Job where
  issues := sampleIssues
  rules := [⟨"naming", "Naming"⟩]
  users := [⟨"ada", "lovelace", none, none⟩]
  request := sampleRequest

/-- Two users who want everything by email. -/
def sampleSubscriptions : List Subscription :=
  [⟨"hopper", .email, NoticeKind.all⟩, ⟨"lovelace", .email, NoticeKind.all⟩]

/-- The personal notice reaches one of them. -/
theorem recipients_sample : ∃ d, d.kind = .myNewIssues ∧ d.recipients = ["lovelace"] ∧
    ∃ before job after n, [sampleJob] = before ++ job :: after ∧
      n ∈ heard d.channel (job.run (.subscribed "project" sampleSubscriptions)
        (stateAfter (.subscribed "project" sampleSubscriptions) before)).acts ∧
      Received sampleSubscriptions job.users n d := by
  let st := sampleJob.store (.subscribed "project" sampleSubscriptions)
  let users := User.byUuid (st.select (sampleRequest.owners st.issues))
  let notice := sampleRequest.personalNotice st.issues users "ada"
  obtain ⟨counters, h⟩ := sample_completes sampleJob.users
    (m := .subscribed "project" sampleSubscriptions) (by decide)
  have hada : "ada" ∈ sampleRequest.owners st.issues :=
    mem_owners.mpr ⟨_, List.mem_cons_of_mem _ (List.mem_singleton_self _), by decide, rfl⟩
  have hheard : notice ∈ heard .email (execute st.collaborators sampleRequest {}).acts := by
    rw [heard_of_completed st.serves h]
    exact List.mem_append_right _ (List.mem_append_right _ (List.mem_map_of_mem hada))
  have hd : Subscription.deliver sampleSubscriptions .email notice ∈
      (stateAfter (.subscribed "project" sampleSubscriptions) [sampleJob]).1.outbox.toList := by
    rw [stateAfter_singleton, (Job.run_alike rfl _ {} {}).state]
    exact deliver_mem_outbox rfl hheard
  have hlovelace : (Subscription.deliver sampleSubscriptions .email notice).recipients =
      ["lovelace"] := by
    have hreceived : Received sampleSubscriptions sampleJob.users notice
        (Subscription.deliver sampleSubscriptions .email notice) := by
      refine received_deliver sampleSubscriptions .email fun m hm => ?_
      rw [hm] at hheard
      exact assignee_of_heard st.serves hheard
    have hfor : ∀ login, meantFor sampleJob.users login notice = ("lovelace" == login) :=
      fun login => rfl
    rw [hreceived.recipients]
    simp only [hfor]
    decide
  exact ⟨_, rfl, hlovelace, recipients_outboxAfter hd⟩

end Run

end IssueNotice
