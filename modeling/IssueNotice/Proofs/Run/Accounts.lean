import IssueNotice.Proofs.Run.Deliveries
import IssueNotice.Proofs.Run.Ledger
import Mathlib.Data.List.Dedup

/-!
# Counters and the answers of a messaging service

A run counts the recipients that its messaging service says to have reached, whatever that answers
from call to call, and the notices that it sent. `Books` ties both to the ledger of the run: the
deliveries of a kind are the sum of the answers to all calls with notices of that kind, and the
number of notices is what the issues call for. Each part of a run keeps the books, and
`counters_execute` reads them off a run that completes.
-/

namespace IssueNotice

/-- How many recipients of a kind of notice an entry accounts for. -/
def Entry.reached (k : NoticeKind) : Entry → Nat
  | .sendBulk notices reached => if ∃ n ∈ notices, n.kind = k then reached.getD 0 else 0
  | .sendSingle notice reached => if notice.kind = k then reached.getD 0 else 0
  | _ => 0

/-- A stream that is read to its end gives some issues, the same each time. -/
def Collaborators.Holds {σ : Type} (c : Collaborators σ) (issues : List Issue) : Prop :=
  ∀ s stream, (c.openStream s).1 = .ok stream → Run.breakage stream = none →
    Run.readable stream = issues

theorem Collaborators.Holds.withLedger {σ : Type} {c : Collaborators σ} {issues : List Issue}
    (h : c.Holds issues) : c.withLedger.Holds issues :=
  fun s => h s.1

namespace Run

/-! ## Books -/

/-- Counters that agree with a ledger about deliveries, and with some numbers about notices. -/
structure Books (sent : NoticeKind → Nat) (counters : Counters) (ledger : List Entry) : Prop where
  deliveries : ∀ k, (counters.get k).deliveries = total (ledger.map (Entry.reached k))
  notices : ∀ k, (counters.get k).notices = sent k

/-- Some numbers of notices, and more of one kind. -/
def more (sent : NoticeKind → Nat) (k : NoticeKind) (n : Nat) : NoticeKind → Nat :=
  Function.update sent k (sent k + n)

theorem more_more (sent : NoticeKind → Nat) (k : NoticeKind) (m n : Nat) :
    more (more sent k m) k n = more sent k (m + n) := by
  simp [more, Nat.add_assoc]

theorem more_zero (sent : NoticeKind → Nat) (k : NoticeKind) : more sent k 0 = sent :=
  Function.update_eq_self k sent

namespace Books

variable {sent : NoticeKind → Nat} {counters : Counters} {ledger : List Entry}

theorem nil : Books (fun _ => 0) {} [] where
  deliveries k := by cases k <;> rfl
  notices k := by cases k <;> rfl

/-- An entry that reaches nobody leaves the books as they are. -/
theorem enter (h : Books sent counters ledger) {e : Entry} (he : ∀ k, e.reached k = 0) :
    Books sent counters (ledger ++ [e]) where
  deliveries k := by simp [h.deliveries k, he k]
  notices := h.notices

/-- An answer is entered and counted for the same kind. -/
theorem addDeliveries (h : Books sent counters ledger) {kind : NoticeKind} {n : Nat} {e : Entry}
    (he : ∀ k, e.reached k = if k = kind then n else 0) :
    Books sent (counters.addDeliveries kind n) (ledger ++ [e]) where
  deliveries k := by
    rw [Counters.addDeliveries, Counters.get_modify, List.map_append, total_append,
      ← h.deliveries k]
    by_cases hk : k = kind <;> simp [hk, he]
  notices k := by
    rw [Counters.addDeliveries, Counters.get_modify, ← h.notices k]
    by_cases hk : k = kind <;> simp [hk]

theorem addNotices (h : Books sent counters ledger) (kind : NoticeKind) (n : Nat) :
    Books (more sent kind n) (counters.addNotices kind n) ledger where
  deliveries k := by
    rw [Counters.addNotices, Counters.get_modify, ← h.deliveries k]
    by_cases hk : k = kind <;> simp [hk]
  notices k := by
    rw [Counters.addNotices, Counters.get_modify, more]
    by_cases hk : k = kind
    · simp [hk, h.notices]
    · simp [hk, h.notices]

end Books

/-! ## The parts of a run keep the books -/

variable {σ : Type} (c : Collaborators σ)

/-- What is left of the books when a run fails: nothing. -/
def NoBooks (_ : List Entry) : Prop := True

section Parts

variable {c} {sent : NoticeKind → Nat}

theorem reached_sendBulk {notices : List Notice} {kind : NoticeKind} (hne : notices ≠ [])
    (hkind : ∀ n ∈ notices, n.kind = kind) (n : Nat) (k : NoticeKind) :
    (Entry.sendBulk notices (some n)).reached k = if k = kind then n else 0 := by
  have hiff : (∃ n ∈ notices, n.kind = k) ↔ k = kind := by
    constructor
    · rintro ⟨n, hn, rfl⟩
      exact hkind n hn
    · rintro rfl
      obtain ⟨n, hn⟩ := List.exists_mem_of_ne_nil notices hne
      exact ⟨n, hn, hkind n hn⟩
  simp [Entry.reached, hiff]

theorem send_books {kind : NoticeKind} (counted : Nat) {notices : List Notice} (hne : notices ≠ [])
    (hkind : ∀ n ∈ notices, n.kind = kind) (counters : Counters) :
    Triple (Ledger (Books sent counters)) (send c.withLedger kind counted notices counters)
      (fun counters => Ledger (Books (more sent kind counted) counters))
      fun _ => Ledger NoBooks := by
  refine Ledger.send ?_ (fun _ _ => trivial) ?_ fun _ _ _ _ _ => trivial
  · intro n ledger h
    exact (h.addDeliveries (reached_sendBulk hne hkind n)).addNotices kind counted
  · intro notice hn n counters ledger h
    refine h.addDeliveries fun k => ?_
    simp [Entry.reached, hkind notice hn, eq_comm]

/-- Looking users up reaches nobody. -/
theorem resolveUsers_books (uuids : List String) {counters : Counters} :
    Triple (Ledger (Books sent counters)) (c.withLedger.resolveUsers uuids)
      (fun _ => Ledger (Books sent counters)) fun _ => Ledger NoBooks :=
  (Ledger.resolveUsers uuids (fun _ h => h) (fun _ _ => trivial)
    (fun _ h => (h.enter fun _ => rfl).enter fun _ => rfl) fun _ _ => trivial).post
      fun _ _ _ h => h.2

theorem openStream_books {counters : Counters} :
    Triple (Ledger (Books sent counters)) (.call .openStream c.withLedger.openStream)
      (fun _ => Ledger (Books sent counters)) fun _ => Ledger NoBooks :=
  Ledger.openStream (fun _ h => h.enter fun _ => rfl) fun _ _ => trivial

/-- A chunk counts as one notice. -/
theorem announceChunk_books {d : Desk} {q : Counters × Nat} {chunk : List Issue}
    (hne : chunk ≠ []) :
    Triple (Ledger (Books sent q.1)) (announceChunk c.withLedger d q chunk)
      (fun q => Ledger (Books (more sent .issueChanges 1) q.1)) fun _ => Ledger NoBooks := by
  refine Ledger.announceChunk (fun _ _ => trivial) fun notices _ hlength hkind =>
    send_books 1 (fun hnil => hne ?_) hkind q.1
  rw [hnil] at hlength
  exact List.length_eq_zero_iff.mp hlength.symm

/-- **Routing sends as many batches as there are chunks of changed issues.** -/
theorem routeIssues_books {issues : List Issue} (hc : c.Holds issues) (period : LeakPeriod)
    (d : Desk) :
    Triple (Ledger (Books (fun _ => 0) {})) (routeIssues c.withLedger period d)
      (fun p seen s => p.rollup = ({} : Rollup).addAll (period.counted issues) ∧
        Ledger (Books (more (fun _ => 0) .issueChanges
          (chunks changeBatchSize (period.changed issues)).length) p.counters) seen s)
      fun _ => Ledger NoBooks := by
  -- one notice for each chunk by then
  let I (front : List (List Issue)) (counters : Counters) : Assertion (σ × List Entry) :=
    Ledger (Books (more (fun _ => 0) .issueChanges front.length) counters)
  have hstep : ∀ front chunk, chunk ≠ [] → ∀ q : Counters × Nat,
      Triple (I front q.1) (announceChunk c.withLedger d q chunk)
        (fun q => I (front ++ [chunk]) q.1) fun _ => Ledger NoBooks := by
    intro front chunk hne q
    simp only [I, List.length_append, List.length_singleton, ← more_more]
    exact announceChunk_books hne
  have hopen : Triple (Ledger (Books (fun _ => 0) {}))
      (.call .openStream c.withLedger.openStream) (fun _ => I [] {}) fun _ => Ledger NoBooks := by
    simp only [I, List.length_nil, more_zero]
    exact openStream_books
  have hclose : ∀ front counters seen s, I front counters seen s →
      I front counters seen (c.withLedger.closeStream s) :=
    fun _ _ _ _ h => Books.enter h fun _ => rfl
  refine (Triple.routeIssues (I := I) (J := I) (F := fun _ => Ledger NoBooks)
    hopen (fun stream _ front chunk back hchunks q => hstep front chunk ?_ q)
    (fun _ _ => hclose _) (fun _ _ _ _ _ _ _ _ => trivial) (fun _ _ _ _ => trivial)
    fun issues' _ chunk hchunk q => ?_).post ?_
  · have hchunk : chunk ∈ fullChunks changeBatchSize (period.changed (readable stream)) := by
      rw [hchunks]
      exact List.mem_append_right front List.mem_cons_self
    exact ne_nil_of_mem_chunks (by decide) (List.mem_append_left _ hchunk)
  · unfold chunks
    rw [lastChunk_eq_of_mem hchunk]
    exact hstep _ chunk (ne_nil_of_mem_chunks (by decide) (List.mem_append_right _ hchunk)) q
  · rintro p seen s ⟨issues', ⟨stream, ⟨s', hs⟩, hb, rfl⟩, hrollup, hbooks⟩
    rw [hc.withLedger s' stream hs hb] at hrollup hbooks
    exact ⟨hrollup, hbooks⟩

theorem sendNewIssues_books (d : Desk) (rollup : Rollup) (counters : Counters) :
    Triple (Ledger (Books sent counters)) (sendNewIssues c.withLedger d rollup counters)
      (fun counters => Ledger (Books (more sent .newIssues 1) counters))
      fun _ => Ledger NoBooks := by
  refine .sendNewIssues (send_books 1 (List.cons_ne_nil _ _) (fun n hn => ?_) counters)
  rw [List.mem_singleton.mp hn]
  rfl

theorem sendMyNewIssues_books (d : Desk) (rollup : Rollup) (counters : Counters) :
    Triple (Ledger (Books sent counters)) (sendMyNewIssues c.withLedger d rollup counters)
      (fun counters => Ledger (Books (more sent .myNewIssues rollup.owners.length) counters))
      fun _ => Ledger NoBooks := by
  refine .sendMyNewIssues (resolveUsers_books _) (fun hnone users _ _ h => ?_) fun hsome users => ?_
  · rw [Rollup.owners, hnone, List.map_nil, List.length_nil, more_zero]
    exact h
  · have hlength : rollup.owners.length = (d.personal rollup users).length := by
      rw [Rollup.owners, Desk.personal, List.length_map, List.length_map]
    have hkind : ∀ n ∈ d.personal rollup users, n.kind = .myNewIssues :=
      List.forall_mem_map.mpr fun _ _ => rfl
    rw [hlength]
    exact send_books _ (fun h => hsome (List.map_eq_nil_iff.mp h)) hkind counters

/-- How many notices of each kind a run sends, a batch of change notices counting once. -/
def Request.noticeCount (r : Request) (issues : List Issue) : NoticeKind → Nat
  | .issueChanges => (chunks changeBatchSize (r.period.changed issues)).length
  | .newIssues => if (r.rollup issues).overall.hasOnLeak then 1 else 0
  | .myNewIssues => (r.owners issues).length

section Issues

variable {issues : List Issue} (hc : c.Holds issues)
include hc

theorem sendAll_books (r : Request) :
    Triple (Ledger (Books (fun _ => 0) {})) (sendAll c.withLedger r)
      (fun counters => Ledger (Books (r.noticeCount issues) counters)) fun _ => Ledger NoBooks := by
  let changes : NoticeKind → Nat :=
    more (fun _ => 0) .issueChanges (chunks changeBatchSize (r.period.changed issues)).length
  let N (p : Progress r.tree) (counters : Counters) : Assertion (σ × List Entry) := fun seen s =>
    p.rollup = r.rollup issues ∧ Ledger (Books (more changes .newIssues 1) counters) seen s
  refine .sendAll (N := fun _ => N)
    (.assigneeUuids openStream_books (Q := fun _ => Ledger (Books (fun _ => 0) {}))
      (fun _ _ _ _ _ h => h.enter fun _ => rfl) fun _ _ _ _ _ _ _ => trivial)
    (fun uuids => resolveUsers_books uuids) (fun users => routeIssues_books hc r.period _)
    (fun users p hl => .given fun hp => ?_) (fun users p counters hl => .given fun hp => ?_)
    fun users p hl _ _ h => ?_
  · exact (sendNewIssues_books _ _ _).post fun _ _ _ h => ⟨hp, h⟩
  · have hsent : r.noticeCount issues =
        more (more changes .newIssues 1) .myNewIssues p.rollup.owners.length := by
      rw [hp] at hl ⊢
      funext k
      cases k <;> simp [Request.noticeCount, changes, more, hl, Request.owners]
    rw [hsent]
    exact sendMyNewIssues_books _ _ counters
  · obtain ⟨hp, hbooks⟩ := h
    rw [show p.rollup = r.rollup issues from hp] at hl
    have hsent : r.noticeCount issues = changes := by
      funext k
      cases k <;> simp [Request.noticeCount, changes, more, hl, owners_eq_nil]
    rw [hsent]
    exact hbooks

theorem sendIfWanted_books (r : Request) :
    Triple (Ledger (Books (fun _ => 0) {})) (sendIfWanted c.withLedger r)
      (fun response => Ledger fun ledger => response.ending = .completed →
        Books (r.noticeCount issues) response.counters ledger) fun _ => Ledger NoBooks :=
  Ledger.sendIfWanted r ((sendAll_books hc r).post fun _ _ _ h _ => h)
    (fun _ _ h => absurd h (by decide)) fun _ _ => trivial

end Issues

end Parts

/-! ## Completed runs -/

/-- The books of a completed run. -/
theorem books_execute {issues : List Issue} (hc : c.Holds issues) {r : Request} {s : σ}
    {counters : Counters} (h : (execute c r s).result = .ok ⟨.completed, counters⟩) :
    Books (r.noticeCount issues) counters (execute c.withLedger r (s, [])).state.2 := by
  rw [← (execute_withLedger c r s []).result] at h
  cases hs : r.analysis.branch.isSilent with
  | true =>
    rw [execute_eq_skip _ hs] at h
    cases h
  | false =>
    rw [execute_eq_finish _ hs, finish_apply] at h ⊢
    exact (sendIfWanted_books hc r [] (s, []) Books.nil).1 _ h rfl

/-- Each assignee with a new issue on the leak period is an owner once. -/
theorem length_owners (r : Request) (issues : List Issue) :
    (r.owners issues).length =
      ((issues.filter fun i => r.period.route i == .counted true).filterMap
        Issue.assignee).dedup.length := by
  have hnodup : (r.owners issues).Nodup := nodup_of_ordered (Rollup.ordered_owners _)
  refine ((List.perm_ext_iff_of_nodup hnodup (List.nodup_dedup _)).mpr fun uuid => ?_).length_eq
  rw [mem_owners, List.mem_dedup, List.mem_filterMap]
  simp only [List.mem_filter, beq_iff_eq, and_assoc]

/-- **Counters over any messaging service.** In a run that completes, whatever its messaging service
answers from call to call, the counter of the deliveries of a kind is the sum of the answers to all
calls with notices of that kind, as a ledger kept over the run has them, each once. The notices are
counted as the issues have it: one for each thousand changed issues or less, one if a new issue is
on the leak period, and one for each assignee of such an issue. -/
theorem counters_execute {issues : List Issue} (hc : c.Holds issues) {r : Request} {s : σ}
    {counters : Counters} (h : (execute c r s).result = .ok ⟨.completed, counters⟩) :
    let ledger := (execute c.withLedger r (s, [])).state.2
    ledger.map Entry.event = entered (execute c r s).acts ∧
      (∀ k, (counters.get k).deliveries = total (ledger.map (Entry.reached k))) ∧
      counters.issueChanges.notices =
        (issues.countP (fun i => r.period.route i == .announced) + 999) / 1000 ∧
      counters.newIssues.notices =
        (if ∃ i ∈ issues, r.period.route i = .counted true then 1 else 0) ∧
      counters.myNewIssues.notices =
        ((issues.filter fun i => r.period.route i == .counted true).filterMap
          Issue.assignee).dedup.length := by
  intro ledger
  have hbooks := books_execute c hc h
  refine ⟨?_, hbooks.deliveries, ?_, ?_, ?_⟩
  · rw [← entered_execute, (execute_withLedger c r s []).acts]
  · refine (hbooks.notices .issueChanges).trans ?_
    rw [Request.noticeCount, length_chunks (by decide), List.countP_eq_length_filter]
    rfl
  · refine (hbooks.notices .newIssues).trans ?_
    rw [Request.noticeCount]
    exact if_congr hasOnLeak_rollup rfl rfl
  · exact (hbooks.notices .myNewIssues).trans (length_owners r issues)

theorem Store.holds (st : Store) : st.collaborators.Holds st.issues := by
  intro u stream h _
  rw [← Except.ok.inj h, readable_map_ok]

theorem counters_sample : ∃ counters,
    (execute (sampleStore [⟨"naming", "Naming"⟩]).collaborators sampleRequest {}).result =
      .ok ⟨.completed, counters⟩ ∧
    counters.issueChanges.notices = 1 ∧ counters.newIssues.notices = 1 ∧
      counters.myNewIssues.notices = 1 ∧
    ∀ k, (counters.get k).deliveries = total
      ((execute (sampleStore [⟨"naming", "Naming"⟩]).collaborators.withLedger sampleRequest
        ({}, [])).state.2.map (Entry.reached k)) := by
  have hrule : (sampleStore [⟨"naming", "Naming"⟩]).collaborators.Knows "naming" :=
    Store.knows_iff.mpr ⟨⟨"naming", "Naming"⟩, Std.ExtTreeMap.getElem?_insert_self⟩
  have hroutes : ∀ i ∈ sampleRequest.period.changed sampleIssues, i.ruleKey = "naming" := by decide
  obtain ⟨k, t, hy⟩ := execute_yields (r := sampleRequest) (by decide) (fun _ => rfl)
    (Store.answers (sampleStore [⟨"naming", "Naming"⟩]))
    (fun i hi => hroutes i hi ▸ hrule) {}
  obtain ⟨-, hdeliveries, hchanges, hnew, hmine⟩ :=
    counters_execute _ (Store.holds (sampleStore [⟨"naming", "Naming"⟩])) hy.result
  exact ⟨k.counters, hy.result, hchanges.trans (by decide), hnew.trans (if_pos (by decide)),
    hmine.trans (by decide), hdeliveries⟩

end Run

end IssueNotice
