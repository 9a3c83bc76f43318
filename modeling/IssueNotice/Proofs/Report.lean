import IssueNotice.Command
import IssueNotice.Proofs.Run.Outbox

/-!
# Reports agree with what was delivered

A report has two accounts of the same deliveries: the counters, which the run added up call by call,
and the deliveries, which the messaging service recorded. `replay_agrees` says that the two agree in
every report of a replayed fixture, however its run ended, and what the outbox behind the report
holds: for each notice that the run produced one record on each channel.
-/

namespace IssueNotice

open Run

/-- The name under which the deliveries of a kind are counted. -/
def NoticeKind.deliveriesName : NoticeKind → String
  | newIssues => "newIssuesDeliveries"
  | myNewIssues => "myNewIssuesDeliveries"
  | issueChanges => "changesDeliveries"

theorem NoticeKind.word_injective {k l : NoticeKind} (h : k.word = l.word) : k = l := by
  cases k <;> cases l <;> first | rfl | exact absurd h (by decide)

namespace Report

/-- Number of recipients of some reported deliveries. -/
def recipientCount (deliveries : List ReportDelivery) : Nat :=
  total (deliveries.map fun d => d.recipients.length)

/-- A report agrees with an outbox: it lists the records that reached somebody, in order, and counts
their recipients. -/
structure Agrees (r : Report) (outbox : List Delivery) : Prop where
  deliveries : r.deliveries = (outbox.filter fun d => d.recipients ≠ []).map ofDelivery
  counters : ∀ k : NoticeKind, r.counters.lookup k.deliveriesName =
    some (recipientCount (r.deliveries.filter fun d => d.kind == k.word))
  total : r.totalDeliveries = recipientCount r.deliveries

/-! ## Counters in a report -/

theorem lookup_deliveriesName (counters : Counters) (k : NoticeKind) :
    counters.entries.lookup k.deliveriesName = some (counters.get k).deliveries := by
  cases k <;>
    simp [Counters.entries, NoticeKind.deliveriesName, Counters.get, List.lookup_cons]

/-- Three of the six counters are of deliveries. -/
theorem total_deliveries_entries (counters : Counters) :
    total ((counters.entries.filter fun c => countsDeliveries c.1).map (·.2)) =
      (counters.get .newIssues).deliveries + ((counters.get .myNewIssues).deliveries +
        (counters.get .issueChanges).deliveries) := by
  have hnames : countsDeliveries "newIssuesNotifs" = false ∧
      countsDeliveries "newIssuesDeliveries" = true ∧
      countsDeliveries "myNewIssuesNotifs" = false ∧
      countsDeliveries "myNewIssuesDeliveries" = true ∧
      countsDeliveries "changesNotifs" = false ∧
      countsDeliveries "changesDeliveries" = true := by decide +kernel
  simp [Counters.entries, Counters.get, hnames]

/-! ## Recipients in a report -/

/-- Deliveries that reached nobody have no recipients to count. -/
theorem recipientCount_ofDelivery (deliveries : List Delivery) :
    recipientCount ((deliveries.filter fun d => d.recipients ≠ []).map ofDelivery) =
      Messaging.reach deliveries := by
  unfold recipientCount Messaging.reach
  induction deliveries with
  | nil => rfl
  | cons d rest ih =>
    by_cases hd : d.recipients = []
    · rw [List.filter_cons_of_neg (by simpa using hd), ih]
      simp [hd]
    · rw [List.filter_cons_of_pos (by simpa using hd)]
      simp only [List.map_cons, total_cons, ih]
      rfl

/-- The deliveries of a kind are reported under its word. -/
theorem filter_word (deliveries : List Delivery) (k : NoticeKind) :
    (((deliveries.filter fun d => d.recipients ≠ []).map ofDelivery).filter
      fun d => d.kind == k.word) =
      ((deliveries.filter fun d => d.kind == k).filter fun d => d.recipients ≠ []).map
        ofDelivery := by
  have hword : ∀ d : Delivery, ((ofDelivery d).kind == k.word) = (d.kind == k) := by
    intro d
    rw [Bool.eq_iff_iff, beq_iff_eq, beq_iff_eq]
    exact ⟨NoticeKind.word_injective, congrArg NoticeKind.word⟩
  rw [List.filter_map, List.filter_filter, List.filter_filter]
  congr 1
  refine List.filter_congr fun d _ => ?_
  rw [Function.comp_apply, hword, Bool.and_comm]

/-- Every delivery is of one of the three kinds. -/
theorem reach_eq_add (deliveries : List Delivery) :
    Messaging.reach deliveries =
      Messaging.reach (deliveries.filter fun d => d.kind == .newIssues) +
        (Messaging.reach (deliveries.filter fun d => d.kind == .myNewIssues) +
          Messaging.reach (deliveries.filter fun d => d.kind == .issueChanges)) := by
  unfold Messaging.reach
  induction deliveries with
  | nil => rfl
  | cons d rest ih =>
    rw [List.map_cons, total_cons, ih]
    cases hk : d.kind <;> simp [hk] <;> omega

/-- **A report agrees with an outbox if the counters do**, kind by kind. -/
theorem agrees_ofRun {runId : String} {generatedAt : Instant} {request : Request}
    {response : Response} {outbox : List Delivery}
    (h : ∀ k, (response.counters.get k).deliveries =
      Messaging.reach (outbox.filter fun d => d.kind == k)) :
    (ofRun runId generatedAt request response outbox).Agrees outbox := by
  have hdeliveries : (ofRun runId generatedAt request response outbox).deliveries =
      (outbox.filter fun d => d.recipients ≠ []).map ofDelivery := by
    refine congrArg (List.map ofDelivery) (List.filter_congr fun d _ => ?_)
    rw [Bool.eq_iff_iff]
    simp
  refine ⟨hdeliveries, fun k => ?_, ?_⟩
  · rw [hdeliveries, filter_word, recipientCount_ofDelivery, ← h k]
    exact lookup_deliveriesName response.counters k
  · rw [hdeliveries, recipientCount_ofDelivery, reach_eq_add, ← h, ← h, ← h]
    exact total_deliveries_entries response.counters

end Report

/-- A replay with a report is a run that ended well. -/
theorem Fixture.replay_report_eq_ok {f : Fixture} {runId : String} {generatedAt : Instant}
    {report : Report} : (f.replay runId generatedAt).report = .ok report ↔
      ∃ response, (execute f.store.collaborators f.request {}).result = .ok response ∧
        report = Report.ofRun runId generatedAt f.request response
          (execute f.store.collaborators f.request {}).state.outbox.toList := by
  simp only [Fixture.replay]
  cases hr : (execute f.store.collaborators f.request {}).result with
  | error e =>
    refine iff_of_false (fun h => nomatch h) ?_
    rintro ⟨response, h, -⟩
    cases h
  | ok response =>
    constructor
    · exact fun h => ⟨response, rfl, (Except.ok.inj h).symm⟩
    · rintro ⟨response', h, rfl⟩
      rw [Except.ok.inj h]
      rfl

/-- **The numbers of a report agree with its deliveries.** In the report of a replayed fixture,
however the run ended, each counter of deliveries is the number of recipients in the reported
deliveries of that kind, and so is their total. The reported deliveries are the records of the
outbox that reached somebody, and the outbox holds, in the order of the calls, one record on each
channel for each notice that the run produced: those of a completed run, and none otherwise. -/
theorem replay_agrees {f : Fixture} {runId : String} {generatedAt : Instant} {report : Report}
    (h : (f.replay runId generatedAt).report = .ok report) :
    let o := execute f.store.collaborators f.request {}
    let outbox := o.state.outbox.toList
    report.Agrees outbox ∧
      outbox = (sendings o.acts).flatMap f.store.messaging.recorded ∧
      ∃ produced, (if report.ending = .completed then f.store.Produces f.request produced
          else produced = []) ∧
        ∀ channel, (outbox.filter fun d => d.channel == channel) =
          produced.map (Subscription.deliver f.subscriptions channel) := by
  intro o outbox
  have houtbox : outbox = (sendings o.acts).flatMap f.store.messaging.recorded :=
    outbox_execute f.store f.request
  obtain ⟨response, hr, rfl⟩ : ∃ response, o.result = .ok response ∧
      report = Report.ofRun runId generatedAt f.request response outbox :=
    Fixture.replay_report_eq_ok.mp h
  rcases sendings_of_ok hr with ⟨hending, hcounters, hsend⟩ | ⟨k, rfl, hsend⟩
  · have hempty : outbox = [] := by rw [houtbox, hsend]; rfl
    refine ⟨Report.agrees_ofRun fun k => ?_, houtbox, [], ?_, fun channel => ?_⟩
    · rw [hcounters, hempty]
      cases k <;> rfl
    · exact (if_neg hending).mpr rfl
    · rw [hempty]
      rfl
  · have hrecords : outbox = k.allGroups.flatMap (records f.subscriptions) := by
      rw [houtbox, hsend]
      exact k.flatMap_recorded _ _
    refine ⟨Report.agrees_ofRun fun kind => ?_, houtbox, k.allGroups.flatten, ?_, fun channel => ?_⟩
    · rw [hrecords, k.filter_kind_allGroups]
      exact k.deliveries_eq rfl kind
    · exact (if_pos rfl).mpr k.produces
    · rw [hrecords, filter_channel_records]

/-- The small store as a fixture, with a subscriber to everything. -/
def sampleFixture : Fixture where
  request := sampleRequest
  rules := [⟨"naming", "Naming"⟩]
  users := []
  subscriptions := [⟨"ada", .email, NoticeKind.all⟩]
  issues := sampleIssues

theorem replay_agrees_sample : ∃ report,
    (sampleFixture.replay "first" (sampleDate 0)).report = .ok report ∧
      report.ending = .completed ∧
      report.Agrees
        (execute sampleFixture.store.collaborators sampleRequest {}).state.outbox.toList := by
  have hrequest : sampleFixture.request = sampleRequest := rfl
  have hrule : sampleFixture.store.collaborators.Knows "naming" :=
    Store.knows_iff.mpr ⟨⟨"naming", "Naming"⟩, Std.ExtTreeMap.getElem?_insert_self⟩
  have hroutes : ∀ i ∈ sampleFixture.request.period.changed sampleIssues, i.ruleKey = "naming" := by
    decide
  obtain ⟨k, t, hy⟩ := execute_yields (r := sampleFixture.request) (by decide) (fun _ => rfl)
    (Store.answers sampleFixture.store) (fun i hi => hroutes i hi ▸ hrule) {}
  have hreport : (sampleFixture.replay "first" (sampleDate 0)).report = .ok _ :=
    Fixture.replay_report_eq_ok.mpr ⟨_, hy.result, rfl⟩
  rw [← hrequest]
  exact ⟨_, hreport, rfl, (replay_agrees hreport).1⟩

end IssueNotice
