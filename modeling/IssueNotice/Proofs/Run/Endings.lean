import IssueNotice.Proofs.Run.IssueOrder
import IssueNotice.Proofs.Run.Journal
import IssueNotice.Run.Sink

/-!
# How a run ends

A run ends in one of four ways: it skips a silent branch, it finds nobody subscribed, it completes,
or it fails. `execute_settled` says which, from the branch, the answer of the gate and the journal
of the calls, and what a run then has done and reported. Counters are all reported at the end or not
at all: a run that fails reports none, whatever it delivered before.

`entries_sink_execute` and `get?_sink_execute` say what a sink is left with that was there during a
run.
-/

namespace IssueNotice.Run

variable {σ α : Type}

/-- A run ended well in some way. -/
def EndsWith (o : Outcome σ Response) (ending : Ending) : Prop :=
  ∃ counters, o.result = .ok ⟨ending, counters⟩

/-- The acts by which counters are reported. -/
def reports (counters : Counters) : List Act :=
  counters.entries.map fun (name, value) => .event (.counter name value)

/-- What a run reports, by how it ended: its counters, unless it was skipped or failed. -/
def dueReport : Except Failure Response → List (String × Nat)
  | .ok ⟨.skippedBranch, _⟩ => []
  | .ok response => response.counters.entries
  | .error _ => []

/-- How a run for a request ended and what it reported, given what the gate answers and a journal of
the calls that the run made. -/
structure Settled (r : Request) (gate : Except Failure Bool) (journal : List Answered)
    (o : Outcome σ Response) : Prop where
  skipped : EndsWith o .skippedBranch ↔ r.analysis.branch.kind ≠ .long
  /-- Nothing but a message is done for a branch that is skipped. -/
  skippedActs : EndsWith o .skippedBranch → o.acts =
    [.event (.report s!"⏭️  Skipping issue notifications on branch '{r.analysis.branch.name}'")]
  noSubscribers : EndsWith o .noSubscribers ↔
    r.analysis.branch.kind = .long ∧ gate = .ok false
  /-- Nothing but the question for subscribers is asked if there are none, and nothing counted. -/
  noSubscribersActs : EndsWith o .noSubscribers → o.result = .ok ⟨.noSubscribers, {}⟩ ∧
    ∃ text, o.acts = [.event (.askSubscribers r.analysis.projectUuid NoticeKind.all),
      .event (.report "🔕 No subscriber for issue notifications on this project")] ++ reports {} ++
        [.event (.completed text)]
  completed : EndsWith o .completed ↔
    r.analysis.branch.kind = .long ∧ gate = .ok true ∧ ∀ a ∈ journal, a.failed = false
  error : (∃ e, o.result = .error e) ↔ ∃ a ∈ journal, a.failed = true
  reported : reported o.acts = dueReport o.result
  /-- Counters are reported behind all else, and before the end is told. -/
  reportedLast : ∀ response, o.result = .ok response → response.ending ≠ .skippedBranch →
    ∃ parts text, o.acts = parts ++ reports response.counters ++ [.event (.completed text)] ∧
      ∀ a ∈ parts, a.isParting = false
  /-- A failure is told behind all else. -/
  failedLast : ∀ e, o.result = .error e →
    ∃ parts text, o.acts = parts ++ [.event (.failed text)] ∧ ∀ a ∈ parts, a.isParting = false

/-! ## The end of a run -/

theorem closing_ok (response : Response) : ∃ text,
    closing (.ok response) = reports response.counters ++ [.event (.completed text)] :=
  ⟨_, rfl⟩

/-- The end of a run that was not skipped reports what is due. -/
theorem reported_closing {result : Except Failure Response}
    (h : ∀ response, result = .ok response → response.ending ≠ .skippedBranch) :
    reported (closing result) = dueReport result := by
  cases result with
  | error e => rfl
  | ok response =>
    obtain ⟨ending, counters⟩ := response
    cases ending with
    | skippedBranch => exact absurd rfl (h _ rfl)
    | noSubscribers | completed => rfl

/-- What belongs to the parts of a run reports nothing. -/
theorem reported_of_not_parting {acts : List Act} (h : ∀ a ∈ acts, a.isParting = false) :
    reported acts = [] := by
  refine List.flatMap_eq_nil_iff.mpr fun e he => ?_
  obtain ⟨a, ha, hae⟩ := List.mem_filterMap.mp he
  cases a with
  | read => cases hae
  | event e' =>
    obtain rfl := Option.some.inj hae
    have hpart := h _ ha
    cases e' <;> first | rfl | exact absurd hpart.symm Bool.false_ne_true

theorem reported_append (as bs : List Act) : reported (as ++ bs) = reported as ++ reported bs := by
  unfold reported
  rw [List.filterMap_append, List.flatMap_append]

/-- The end of a run makes no call. -/
theorem asked_closing (result : Except Failure Response) : asked (closing result) = [] := by
  cases result <;> rfl

section Execute

variable (c : Collaborators σ) (r : Request) (s : σ)

/-- **A run fails iff one of its calls does.** -/
theorem told_execute : Told [] (execute c.withJournal r (s, []))
    (execute c.withJournal r (s, [])).state.2 := by
  cases hs : r.analysis.branch.isSilent with
  | true =>
    rw [execute_eq_skip _ hs]
    exact ⟨rfl, rfl, iff_of_true ⟨_, rfl⟩ (List.forall_mem_nil _)⟩
  | false =>
    obtain ⟨added, hadded⟩ := sendIfWanted_honest c r (s, [])
    obtain rfl := hadded.journal
    rw [execute_eq_finish _ hs, finish_apply]
    refine ⟨hadded.journal, ?_, hadded.ok⟩
    rw [asked_append, asked_closing, List.append_nil]
    exact hadded.asked

variable {r s}

/-- What the gate answers decides how a run behind it ends, if it ends well. -/
theorem ending_of_ok {response : Response} (h : (sendIfWanted c r s).result = .ok response) :
    let gate := (c.hasSubscribers r.analysis.projectUuid NoticeKind.all s).1
    gate = .ok true ∧ response.ending = .completed ∨
      gate = .ok false ∧ response = ⟨.noSubscribers, {}⟩ := by
  intro gate
  obtain ⟨wanted, hw, h'⟩ := Traced.exists_of_bind_ok h
  cases wanted with
  | true =>
    refine .inl ⟨hw, ?_⟩
    obtain ⟨counters, -, hr⟩ := Traced.exists_of_bind_ok h'
    rw [← Except.ok.inj hr]
  | false =>
    refine .inr ⟨hw, ?_⟩
    obtain ⟨_, -, hr⟩ := Traced.exists_of_bind_ok h'
    exact (Except.ok.inj hr).symm

theorem ending_ne_skippedBranch {response : Response}
    (h : (sendIfWanted c r s).result = .ok response) : response.ending ≠ .skippedBranch := by
  rcases ending_of_ok c h with ⟨-, hending⟩ | ⟨-, rfl⟩
  · rw [hending]
    decide
  · decide

variable (r s) in
/-- **A run reports what is due by how it ended.** -/
theorem reported_execute : reported (execute c r s).acts = dueReport (execute c r s).result := by
  cases hs : r.analysis.branch.isSilent with
  | true =>
    rw [execute_eq_skip c hs]
    rfl
  | false =>
    rw [execute_eq_finish c hs, finish_apply, reported_append,
      reported_of_not_parting ((sendIfWanted_twin c c r).never_parting s), List.nil_append,
      reported_closing fun _ => ending_ne_skippedBranch c]

variable {journal : List Answered}
  (hok : (∃ response, (execute c r s).result = .ok response) ↔ ∀ a ∈ journal, a.failed = false)
include hok

theorem error_iff_of_ok_iff : (∃ e, (execute c r s).result = .error e) ↔
    ∃ a ∈ journal, a.failed = true := by
  rw [← not_iff_not]
  simp only [not_exists, not_and, Bool.not_eq_true, ← hok]
  cases (execute c r s).result <;> simp

/-- A silent branch is skipped. -/
theorem settled_of_silent (hs : r.analysis.branch.kind ≠ .long) (gate : Except Failure Bool) :
    Settled r gate journal (execute c r s) := by
  have herror := error_iff_of_ok_iff c hok
  have hreported := reported_execute c r s
  have hp := execute_eq_skip c (bne_iff_ne.mpr hs) s
  have honly : ∀ {ending}, EndsWith (execute c r s) ending → .skippedBranch = ending := by
    rw [hp]
    rintro ending ⟨_, h⟩
    exact congrArg Response.ending (Except.ok.inj h)
  rw [hp] at herror hreported honly ⊢
  constructor
  case skipped => exact iff_of_true ⟨{}, rfl⟩ hs
  case skippedActs => exact fun _ => rfl
  case noSubscribers => exact iff_of_false (fun h => nomatch honly h) fun h => hs h.1
  case noSubscribersActs => exact fun h => nomatch honly h
  case completed => exact iff_of_false (fun h => nomatch honly h) fun h => hs h.1
  case error => exact herror
  case reported => exact hreported
  case reportedLast =>
    rintro _ h hne
    cases h
    exact absurd rfl hne
  case failedLast =>
    rintro _ h
    cases h

/-- Behind the first gate the second one and the calls decide. -/
theorem settled_of_long (hlong : r.analysis.branch.kind = .long) :
    Settled r (c.hasSubscribers r.analysis.projectUuid NoticeKind.all s).1 journal
      (execute c r s) := by
  have herror := error_iff_of_ok_iff c hok
  have hreported := reported_execute c r s
  have hp : execute c r s = ⟨(sendIfWanted c r s).acts ++ closing (sendIfWanted c r s).result,
      (sendIfWanted c r s).result, (sendIfWanted c r s).state⟩ := by
    have hs : r.analysis.branch.isSilent = false := by
      unfold Branch.isSilent
      rw [hlong]
      rfl
    rw [execute_eq_finish c hs, finish_apply]
  have hparts := (sendIfWanted_twin c c r).never_parting s
  have hends : ∀ response, (sendIfWanted c r s).result = .ok response → _ :=
    fun response h => ending_of_ok c h
  rw [hp] at hok herror hreported ⊢
  constructor
  case skipped =>
    exact iff_of_false (fun ⟨_, h⟩ => ending_ne_skippedBranch c h rfl) (not_not.mpr hlong)
  case skippedActs => exact fun ⟨_, h⟩ => absurd rfl (ending_ne_skippedBranch c h)
  case noSubscribers =>
    constructor
    · rintro ⟨_, h⟩
      rcases hends _ h with ⟨-, h⟩ | ⟨hgate, -⟩
      · cases h
      · exact ⟨hlong, hgate⟩
    · rintro ⟨-, hgate⟩
      rw [sendIfWanted_of_false hgate]
      exact ⟨{}, rfl⟩
  case noSubscribersActs =>
    rintro ⟨_, h⟩
    rcases hends _ h with ⟨-, h⟩ | ⟨hgate, -⟩
    · cases h
    · rw [sendIfWanted_of_false hgate]
      obtain ⟨text, htext⟩ := closing_ok ⟨.noSubscribers, {}⟩
      exact ⟨rfl, text, by rw [htext, List.append_assoc]⟩
  case completed =>
    constructor
    · rintro ⟨counters, h⟩
      rcases hends _ h with ⟨hgate, -⟩ | ⟨-, h⟩
      · exact ⟨hlong, hgate, hok.mp ⟨_, h⟩⟩
      · cases h
    · rintro ⟨-, hgate, hfine⟩
      obtain ⟨response, h⟩ := hok.mpr hfine
      rcases hends _ h with ⟨-, hc⟩ | ⟨hrefused, -⟩
      · exact ⟨response.counters, hc ▸ h⟩
      · rw [hgate] at hrefused
        cases hrefused
  case error => exact herror
  case reported => exact hreported
  case reportedLast =>
    rintro response h -
    obtain ⟨text, htext⟩ := closing_ok response
    exact ⟨_, text, by rw [h, htext, List.append_assoc], hparts⟩
  case failedLast =>
    rintro e h
    exact ⟨_, _, by rw [h]; rfl, hparts⟩

end Execute

/-! ## What a sink is left with -/

/-- A sink keeps the counters that events report, behind those that it has. -/
theorem entries_foldl_receive (events : List Event) (sink : Sink) :
    (events.foldl Sink.receive sink).entries.toList =
      sink.entries.toList ++ events.flatMap counter := by
  induction events generalizing sink with
  | nil => exact (List.append_nil _).symm
  | cons e rest ih =>
    have hone : (sink.receive e).entries.toList = sink.entries.toList ++ counter e := by
      cases e with
      | counter name value => exact Array.toList_push
      | _ => exact (List.append_nil _).symm
    rw [List.foldl_cons, ih, hone, List.flatMap_cons, List.append_assoc]

theorem entries_sink (o : Outcome σ α) :
    (Sink.ofEvents o.events).entries.toList = reported o.acts :=
  entries_foldl_receive o.events {}

/-- The first counter with the name of a counter of a run is that counter. -/
theorem find?_counterEntries {counters : Counters} {entry : String × Nat}
    (h : entry ∈ counters.entries) :
    (counters.entries.find? fun e => e.1 == entry.1) = some entry := by
  simp only [Counters.entries, List.mem_cons, List.not_mem_nil, or_false] at h
  rcases h with rfl | rfl | rfl | rfl | rfl | rfl <;> rfl

/-- **After a run a sink has what was due, in order.** -/
theorem entries_sink_execute (c : Collaborators σ) (r : Request) (s : σ) :
    (Sink.ofEvents (execute c r s).events).entries.toList = dueReport (execute c r s).result :=
  (entries_sink _).trans (reported_execute c r s)

/-- **Every counter of a run is found in its sink**, under its name. -/
theorem get?_sink_execute {c : Collaborators σ} {r : Request} {s : σ} {response : Response}
    (h : (execute c r s).result = .ok response) (hne : response.ending ≠ .skippedBranch)
    {entry : String × Nat} (he : entry ∈ response.counters.entries) :
    (Sink.ofEvents (execute c r s).events).get? entry.1 = some entry.2 := by
  have hentries := entries_sink_execute c r s
  have hdue : dueReport (.ok response) = response.counters.entries := by
    obtain ⟨ending, counters⟩ := response
    cases ending with
    | skippedBranch => exact absurd rfl hne
    | noSubscribers | completed => rfl
  rw [h, hdue] at hentries
  unfold Sink.get?
  rw [← Array.find?_toList, hentries, find?_counterEntries he]
  rfl

/-- **How a run ends**, whatever its collaborators do. A journal kept over the run, which the run
does not notice, has each call that may fail with its answer. The branch decides whether the run is
skipped, the gate whether anything is sent, and the journal whether the run fails: it does so iff a
call did. The six counters are reported, in order and with the values of the response, by the runs
that neither are skipped nor fail, before their completion is told. -/
theorem execute_settled (c : Collaborators σ) (r : Request) (s : σ) :
    let o := execute c.withJournal r (s, [])
    let p := execute c r s
    let journal := o.state.2
    (o.acts = p.acts ∧ o.result = p.result ∧ o.state.1 = p.state) ∧
      journal.map Answered.event = asked p.acts ∧
      Settled r (c.hasSubscribers r.analysis.projectUuid NoticeKind.all s).1 journal p := by
  intro o p journal
  have hghost := execute_withJournal c r s []
  have htold := told_execute c r s
  refine ⟨⟨hghost.acts, hghost.result, hghost.state⟩, ?_, ?_⟩
  · rw [htold.asked, hghost.acts]
  have hok : (∃ response, p.result = .ok response) ↔ ∀ a ∈ journal, a.failed = false := by
    rw [← hghost.result]
    exact htold.ok
  by_cases hs : r.analysis.branch.kind = .long
  · exact settled_of_long c hok hs
  · exact settled_of_silent c hok hs _

end IssueNotice.Run
