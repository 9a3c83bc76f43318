import IssueNotice.Proofs.Report
import IssueNotice.Proofs.Run.Accounts

/-!
# The gate is an exact shortcut

Before a run does anything it asks whether anybody subscribed to any of its kinds of notice, and it
ends there if not. The answer looks at the kinds alone, whereas a delivery also depends on the
channel and, for a personal notice, on the login. `gate_exact` says that nothing is lost by asking:
the answer is yes iff some notice of the kinds would reach somebody, and where a replay ends at the
gate, all that it left out would have reached nobody.

`hasSubscribers_iff` compares the two predicates over the subscriptions. Behind a closed gate no
call reaches anybody, so that neither the ledger of a run nor its outbox says so (`Unheard`), and
the counters agree with the ledger (`sendAll_unheard`).
-/

namespace IssueNotice

open Run

/-! ## The two predicates over the subscriptions -/

namespace Subscription

variable {subscriptions : List Subscription}

theorem mem_recipients {channel : Channel} {n : Notice} {login : String} :
    login ∈ recipients subscriptions channel n ↔ ∃ s ∈ subscriptions,
      s.channel = channel ∧ n.kind ∈ s.kinds ∧ isAddressee login n = true ∧ s.login = login := by
  unfold recipients wants
  simp only [List.mem_map, List.mem_filter, Bool.and_eq_true, beq_iff_eq, List.contains_iff_mem,
    and_assoc]
  constructor
  · rintro ⟨s, hs, hchannel, hkind, hfor, rfl⟩
    exact ⟨s, hs, hchannel, hkind, hfor, rfl⟩
  · rintro ⟨s, hs, hchannel, hkind, hfor, rfl⟩
    exact ⟨s, hs, hchannel, hkind, hfor, rfl⟩

theorem anyWants_iff {kinds : List NoticeKind} :
    anyWants subscriptions kinds = true ↔ ∃ s ∈ subscriptions, ∃ k ∈ kinds, k ∈ s.kinds := by
  simp [anyWants, wants, List.any_eq_true]

/-- A notice of a kind that is meant for a login, whatever else it says. -/
def noticeFor (login : String) : NoticeKind → Notice
  | .issueChanges => .change
      { project := ⟨"", "", none, none⟩, issueKey := "", ruleKey := "", ruleName := "" }
  | .newIssues => .newIssues
      { project := ⟨"", "", none, none⟩, version := none, date := sampleDate 0, statistics := {},
        debt := 0, assigneeNames := ∅ }
  | .myNewIssues => .myNewIssues
      { project := ⟨"", "", none, none⟩, version := none, date := sampleDate 0, assigneeUuid := "",
        assignee := some ⟨"", login, none, none⟩, statistics := {}, debt := 0 }

theorem kind_noticeFor (login : String) (k : NoticeKind) : (noticeFor login k).kind = k := by
  cases k <;> rfl

theorem isAddressee_noticeFor (login : String) (k : NoticeKind) :
    isAddressee login (noticeFor login k) = true := by
  cases k <;> simp [noticeFor, isAddressee]

/-- **Some kind is wanted iff some notice of the kinds is received by somebody.** -/
theorem anyWants_iff_exists_mem_recipients {kinds : List NoticeKind} :
    anyWants subscriptions kinds = true ↔ ∃ n : Notice, n.kind ∈ kinds ∧
      ∃ channel login, login ∈ recipients subscriptions channel n := by
  rw [anyWants_iff]
  constructor
  · rintro ⟨s, hs, k, hk, hwants⟩
    refine ⟨noticeFor s.login k, by rwa [kind_noticeFor], s.channel, s.login, ?_⟩
    exact mem_recipients.mpr
      ⟨s, hs, rfl, by rwa [kind_noticeFor], isAddressee_noticeFor s.login k, rfl⟩
  · rintro ⟨n, hn, channel, login, hl⟩
    obtain ⟨s, hs, -, hwants, -, -⟩ := mem_recipients.mp hl
    exact ⟨s, hs, n.kind, hn, hwants⟩

end Subscription

namespace Run

section Reached

variable {projectUuid : String} {subscriptions : List Subscription}

/-- A notice reaches somebody iff it has a recipient on one of the channels. -/
theorem reached_iff {n : Notice} :
    let m := Messaging.subscribed projectUuid subscriptions
    (0 < (m.bulk [n]).2 ∨ 0 < (m.single n).2) ↔
      ∃ channel login, login ∈ Subscription.recipients subscriptions channel n := by
  intro m
  have hbulk : (m.bulk [n]).2 = (Subscription.recipients subscriptions .email n).length :=
    Nat.add_zero _
  have hsingle : (m.single n).2 = (Subscription.recipients subscriptions .legacy n).length := rfl
  rw [hbulk, hsingle, List.length_pos_iff_exists_mem, List.length_pos_iff_exists_mem]
  constructor
  · rintro (⟨login, hl⟩ | ⟨login, hl⟩)
    · exact ⟨.email, login, hl⟩
    · exact ⟨.legacy, login, hl⟩
  · rintro ⟨channel, login, hl⟩
    cases channel with
    | email => exact .inl ⟨login, hl⟩
    | legacy => exact .inr ⟨login, hl⟩

/-- **Somebody subscribed to some kinds iff some notice of the kinds would reach somebody.** -/
theorem hasSubscribers_iff {kinds : List NoticeKind} :
    let m := Messaging.subscribed projectUuid subscriptions
    m.hasSubscribers projectUuid kinds = true ↔
      ∃ n : Notice, n.kind ∈ kinds ∧ (0 < (m.bulk [n]).2 ∨ 0 < (m.single n).2) := by
  intro m
  simp only [m, reached_iff, ← Subscription.anyWants_iff_exists_mem_recipients]
  simp [Messaging.subscribed]

end Reached

/-! ## Behind a closed gate -/

/-- Whatever is handed to a messaging service, it reaches nobody. -/
structure Messaging.ReachesNobody (m : Messaging) : Prop where
  bulk : ∀ notices, (m.bulk notices).2 = 0 ∧ ∀ d ∈ (m.bulk notices).1, d.recipients = []
  single : ∀ notice, (m.single notice).2 = 0 ∧ ∀ d ∈ (m.single notice).1, d.recipients = []

/-- **Where nobody subscribed to anything, nothing reaches anybody.** -/
theorem reachesNobody_of_gate {projectUuid : String} {subscriptions : List Subscription}
    (h : (Messaging.subscribed projectUuid subscriptions).hasSubscribers projectUuid
      NoticeKind.all = false) : (Messaging.subscribed projectUuid subscriptions).ReachesNobody := by
  have hnone : ∀ channel n, Subscription.recipients subscriptions channel n = [] := by
    intro channel n
    refine List.eq_nil_iff_forall_not_mem.mpr fun login hl => ?_
    have hkind : n.kind ∈ NoticeKind.all := by cases n.kind <;> decide
    rw [hasSubscribers_iff.mpr ⟨n, hkind, reached_iff.mpr ⟨channel, login, hl⟩⟩] at h
    exact absurd h (by decide)
  constructor
  · intro notices
    have hall : ∀ d ∈ notices.map (Subscription.deliver subscriptions .email),
        d.recipients = [] := List.forall_mem_map.mpr fun n _ => hnone .email n
    refine ⟨total_eq_zero (List.forall_mem_map.mpr fun d hd => ?_), hall⟩
    rw [hall d hd]
    rfl
  · intro notice
    refine ⟨congrArg List.length (hnone .legacy notice), fun d hd => ?_⟩
    rw [List.mem_singleton.mp hd]
    exact hnone .legacy notice

/-- Nobody was reached: the ledger says so, and no record in the outbox has a recipient. -/
structure Unheard (s : Usage × List Entry) : Prop where
  ledger : ∀ e ∈ s.2, ∀ k, e.reached k = 0
  outbox : ∀ d ∈ s.1.outbox.toList, d.recipients = []

theorem Unheard.nil : Unheard ({}, []) where
  ledger _ h := absurd h List.not_mem_nil
  outbox _ h := absurd h List.not_mem_nil

/-- A change that neither enters nor records that anybody was reached. -/
theorem Unheard.next {s : Usage × List Entry} (h : Unheard s) {u : Usage} {entries : List Entry}
    (hu : ∀ d ∈ u.outbox.toList, d ∈ s.1.outbox.toList ∨ d.recipients = [])
    (he : ∀ e ∈ entries, ∀ k, e.reached k = 0) : Unheard (u, s.2 ++ entries) where
  ledger e hmem := (List.mem_append.mp hmem).elim (h.ledger e) (he e)
  outbox d hmem := (hu d hmem).elim (h.outbox d) id

theorem Unheard.alike {α : Type} {answer : Answer Usage α}
    {entries : Except Failure α → List Entry}
    (hu : ∀ u, ∀ d ∈ (answer u).2.outbox.toList, d ∈ u.outbox.toList ∨ d.recipients = [])
    (he : ∀ u, ∀ e ∈ entries (answer u).1, ∀ k, e.reached k = 0) :
    AnswersAlike (fun s t => s = t ∧ Unheard s) (answer.entering entries)
      (answer.entering entries) := by
  rintro s _ ⟨rfl, h⟩
  exact ⟨rfl, rfl, h.next (hu s.1) (he s.1)⟩

/-- Recording deliveries without recipients adds no other records. -/
theorem mem_outbox_deliver {sent : List Delivery × Nat} (h : ∀ d ∈ sent.1, d.recipients = [])
    (u : Usage) : ∀ d ∈ (u.deliver sent).2.outbox.toList,
      d ∈ u.outbox.toList ∨ d.recipients = [] := by
  intro d hd
  simp only [Usage.deliver, Array.toList_appendList, List.mem_append] at hd
  exact hd.imp_right (h d)

section Unheard

variable {st : Store} (hm : st.messaging.ReachesNobody)
include hm

/-- No call of a service that reaches nobody changes that nobody was reached. -/
theorem Store.unheard_alike : CollaboratorsAlike (fun s t => s = t ∧ Unheard s)
    st.collaborators.withLedger st.collaborators.withLedger where
  hasSubscribers _ _ := Unheard.alike (fun _ _ h => .inl h) fun _ => by simp
  openStream := Unheard.alike (fun _ _ h => .inl h) fun _ => by simp [Entry.reached]
  closeStream := by
    rintro s _ ⟨rfl, h⟩
    exact ⟨rfl, h.next (fun _ h => .inl h) (by simp [Entry.reached])⟩
  openSession := Unheard.alike (fun _ _ h => .inl h) fun _ => by simp [Entry.reached]
  selectUsers _ := Unheard.alike (fun _ _ h => .inl h) fun _ => by simp
  closeSession := by
    rintro s _ ⟨rfl, h⟩
    exact ⟨rfl, h.next (fun _ h => .inl h) (by simp [Entry.reached])⟩
  findRule _ := Unheard.alike (fun _ _ h => .inl h) fun _ => by simp
  sendBulk notices := Unheard.alike (mem_outbox_deliver (hm.bulk notices).2) fun u e he k => by
    rw [List.mem_singleton.mp he]
    simp [Entry.reached, Store.collaborators, Usage.deliver, Except.toOption, (hm.bulk notices).1]
  sendSingle notice := Unheard.alike (mem_outbox_deliver (hm.single notice).2) fun u e he k => by
    rw [List.mem_singleton.mp he]
    simp [Entry.reached, Store.collaborators, Usage.deliver, Except.toOption, (hm.single notice).1]

/-- **All that is sent by a service that reaches nobody reaches nobody.** -/
theorem sendAll_unheard (r : Request) :
    (∀ counters, (sendAll st.collaborators r {}).result = .ok counters →
      ∀ k, (counters.get k).deliveries = 0) ∧
    ∀ d ∈ (sendAll st.collaborators r {}).state.outbox.toList, d.recipients = [] := by
  let c := st.collaborators
  have hghost : OutcomeAlike (fun s t => s.1 = t) (sendAll c.withLedger r ({}, []))
      (sendAll c r {}) := (sendAll_twin _ _ r).alike (withLedger_alike c) rfl
  have hunheard : Unheard (sendAll c.withLedger r ({}, [])).state :=
    ((sendAll_twin _ _ r).alike (Store.unheard_alike hm) ⟨rfl, .nil⟩).state.2
  constructor
  · intro counters h k
    have hbooks :=
      (sendAll_books st.holds r [] ({}, []) Books.nil).1 counters (hghost.result.trans h)
    rw [hbooks.deliveries k]
    exact total_eq_zero (List.forall_mem_map.mpr fun e he => hunheard.ledger e he k)
  · rw [← hghost.state]
    exact hunheard.outbox

end Unheard

/-- A run that ends at the gate found it closed. -/
theorem gate_of_noSubscribers {st : Store} {r : Request} {u : Usage} {response : Response}
    (h : (execute st.collaborators r u).result = .ok response)
    (he : response.ending = .noSubscribers) :
    st.messaging.hasSubscribers r.analysis.projectUuid NoticeKind.all = false := by
  cases hs : r.analysis.branch.isSilent with
  | true =>
    rw [(execute_silent hs u).result] at h
    rw [← Except.ok.inj h] at he
    cases he
  | false =>
    rw [Bool.eq_false_iff]
    intro hw
    rw [execute_eq_finish _ hs, finish_apply, sendIfWanted_of_true (congrArg Except.ok hw)] at h
    cases hr : (sendAll st.collaborators r u).result with
    | ok counters =>
      rw [← Except.ok.inj ((congrArg (Except.map (Response.mk .completed)) hr).symm.trans h)] at he
      cases he
    | error e =>
      cases (congrArg (Except.map (Response.mk .completed)) hr).symm.trans h

end Run

/-- **The gate is an exact shortcut.** Some notice of some kinds would reach somebody iff the answer
for the kinds is yes. Where a replay ends at the gate, sending everything would, if it completed,
have counted no delivery and left none to report. -/
theorem gate_exact :
    (∀ (projectUuid : String) (subscriptions : List Subscription) (kinds : List NoticeKind),
      let m := Messaging.subscribed projectUuid subscriptions
      m.hasSubscribers projectUuid kinds = true ↔
        ∃ n : Notice, n.kind ∈ kinds ∧ (0 < (m.bulk [n]).2 ∨ 0 < (m.single n).2)) ∧
    ∀ (f : Fixture) (runId : String) (generatedAt : Instant) (report : Report),
      (f.replay runId generatedAt).report = .ok report → report.ending = .noSubscribers →
      let o := sendAll f.store.collaborators f.request {}
      ∀ counters, o.result = .ok counters → (∀ k, (counters.get k).deliveries = 0) ∧
        (Report.ofRun runId generatedAt f.request ⟨.completed, counters⟩
          o.state.outbox.toList).deliveries = [] := by
  refine ⟨fun projectUuid subscriptions kinds => hasSubscribers_iff, ?_⟩
  intro f runId generatedAt report hreport hending o counters hsent
  obtain ⟨response, hr, rfl⟩ := Fixture.replay_report_eq_ok.mp hreport
  have hm : f.store.messaging.ReachesNobody :=
    reachesNobody_of_gate (gate_of_noSubscribers hr hending)
  obtain ⟨hcounters, hrecords⟩ := sendAll_unheard hm f.request
  refine ⟨hcounters counters hsent, ?_⟩
  have hnone : (o.state.outbox.toList.filter fun d => !d.recipients.isEmpty) = [] :=
    List.filter_eq_nil_iff.mpr fun d hd => by simp [hrecords d hd]
  unfold Report.ofRun
  rw [hnone, List.map_nil]

/-- The small store as a fixture to which nobody subscribed: all of it could be sent, to nobody. And
a subscriber to personal notices alone, whom one of them would reach. -/
theorem gate_exact_sample :
    let f : Fixture := { sampleFixture with subscriptions := [] }
    (∃ report counters, (f.replay "first" (sampleDate 0)).report = .ok report ∧
      report.ending = .noSubscribers ∧
      (sendAll f.store.collaborators f.request {}).result = .ok counters ∧
      (∀ k, (counters.get k).deliveries = 0)) ∧
    let m := Messaging.subscribed "project" [⟨"ada", .legacy, [.myNewIssues]⟩]
    ∃ n : Notice, n.kind ∈ [NoticeKind.myNewIssues] ∧ (0 < (m.bulk [n]).2 ∨ 0 < (m.single n).2) := by
  intro f
  refine ⟨?_, (gate_exact.1 "project" [⟨"ada", .legacy, [.myNewIssues]⟩] [.myNewIssues]).mp
    (by decide)⟩
  have hy := execute_unwanted (c := f.store.collaborators) (r := sampleRequest) (s := {})
    (by decide) rfl
  have hreport : (f.replay "first" (sampleDate 0)).report = .ok _ :=
    Fixture.replay_report_eq_ok.mpr ⟨_, hy.result, rfl⟩
  have hrule : f.store.collaborators.Knows "naming" :=
    Store.knows_iff.mpr ⟨⟨"naming", "Naming"⟩, Std.ExtTreeMap.getElem?_insert_self⟩
  have hroutes : ∀ i ∈ sampleRequest.period.changed sampleIssues, i.ruleKey = "naming" := by decide
  obtain ⟨k, t, hsent⟩ := sendAll_yields (Store.answers f.store) sampleRequest
    (fun i hi => hroutes i hi ▸ hrule) {}
  exact ⟨_, k.counters, hreport, rfl, hsent.result,
    (gate_exact.2 f "first" (sampleDate 0) _ hreport rfl k.counters hsent.result).1⟩

end IssueNotice
