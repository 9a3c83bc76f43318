import IssueNotice.Proofs.Run.Course

/-!
# Runs from gate to end

How a run ends is settled by its parts: `execute_eq_skip` and `execute_eq_finish` are the gate of
branches, `finish_apply` is the end of any run behind it, and `sendIfWanted_of_true`,
`sendIfWanted_of_false` are the gate of subscribers. With what
the parts show, `execute_yields` is the whole run that completes, and `execute_fails` the one that
an unknown rule ends.
-/

namespace IssueNotice.Run

variable {σ : Type} {c : Collaborators σ} {issues : List Issue}

/-! ## How a run ends -/

/-- The report of a run does not depend on its collaborators and leaves them alone. -/
theorem conclude_apply {τ : Type} (response : Response) (t : τ) :
    conclude response t =
      ⟨((conclude response : Traced Unit Response) ()).acts, .ok response, t⟩ :=
  rfl

/-- How a run ends behind its gates: with a message if it failed, with a report otherwise. -/
def finish {τ : Type} (x : Traced τ Response) : Traced τ Response := do
  let response ← x.onFailure fun e =>
    .note (.failed s!"❌ Issue notifications failed: {e.message}")
  conclude response

theorem finish_of_ok {τ : Type} {x : Traced τ Response} {t : τ} {response : Response}
    (h : (x t).result = .ok response) :
    finish x t = ⟨(x t).acts ++ ((conclude response : Traced Unit Response) ()).acts, .ok response,
      (x t).state⟩ := by
  have hok := Traced.onFailure_of_ok h fun e =>
    .note (.failed s!"❌ Issue notifications failed: {e.message}")
  unfold finish
  rw [Traced.bind_of_ok (hok ▸ h), hok, conclude_apply]

theorem finish_of_error {τ : Type} {x : Traced τ Response} {t : τ} {e : Failure}
    (h : (x t).result = .error e) :
    finish x t = ⟨(x t).acts ++
      [.event (.failed ("❌ Issue notifications failed: " ++ e.message))], .error e,
      (x t).state⟩ := by
  have herror := Traced.onFailure_of_error h fun e =>
    .note (.failed s!"❌ Issue notifications failed: {e.message}")
  unfold finish
  rw [Traced.bind_of_error ((congrArg Outcome.result herror).trans h), herror]
  rfl

/-- The messages and counters behind the parts of a run. -/
def closing : Except Failure Response → List Act
  | .ok response => ((conclude response : Traced Unit Response) ()).acts
  | .error e => [.event (.failed ("❌ Issue notifications failed: " ++ e.message))]

/-- How a run ends is determined by the result of its parts. -/
theorem finish_apply {τ : Type} (x : Traced τ Response) (t : τ) :
    finish x t = ⟨(x t).acts ++ closing (x t).result, (x t).result, (x t).state⟩ := by
  cases h : (x t).result with
  | ok response => rw [finish_of_ok h, closing]
  | error e => rw [finish_of_error h, closing]

theorem exists_acts_finish {τ : Type} (x : Traced τ Response) (t : τ) :
    ∃ more, (finish x t).acts = (x t).acts ++ more := by
  cases h : (x t).result with
  | ok response => exact ⟨_, by rw [finish_of_ok h]⟩
  | error e => exact ⟨_, by rw [finish_of_error h]⟩

/-- With a subscriber, the parts of a run are the question for one and what is sent. -/
theorem sendIfWanted_of_true {r : Request} {s : σ}
    (hw : (c.hasSubscribers r.analysis.projectUuid NoticeKind.all s).1 = .ok true) :
    let o := sendAll c r (c.hasSubscribers r.analysis.projectUuid NoticeKind.all s).2
    sendIfWanted c r s = ⟨.event (.askSubscribers r.analysis.projectUuid NoticeKind.all) :: o.acts,
      o.result.map (Response.mk .completed), o.state⟩ := by
  intro o
  let respond (counters : Counters) : Traced σ Response := pure ⟨.completed, counters⟩
  have hask : sendIfWanted c r s = _ := Traced.bind_of_ok hw _
  have hp : (sendAll c r >>= respond) (c.hasSubscribers r.analysis.projectUuid NoticeKind.all s).2 =
      ⟨o.acts, o.result.map (Response.mk .completed), o.state⟩ := by
    cases hr : o.result with
    | error e => exact Traced.bind_of_error hr respond
    | ok counters =>
      have h := Traced.bind_of_ok hr respond
      rw [h]
      exact congrArg (Outcome.mk · _ _) (List.append_nil _)
  rw [hask]
  exact congrArg (fun q : Outcome σ Response => Outcome.mk
    (.event (.askSubscribers r.analysis.projectUuid NoticeKind.all) :: q.acts) q.result q.state) hp

/-- Without a subscriber, the parts of a run are the question for one and a message. -/
theorem sendIfWanted_of_false {r : Request} {s : σ}
    (hw : (c.hasSubscribers r.analysis.projectUuid NoticeKind.all s).1 = .ok false) :
    sendIfWanted c r s = ⟨[.event (.askSubscribers r.analysis.projectUuid NoticeKind.all),
      .event (.report "🔕 No subscriber for issue notifications on this project")],
      .ok ⟨.noSubscribers, {}⟩,
      (c.hasSubscribers r.analysis.projectUuid NoticeKind.all s).2⟩ := by
  have hask : sendIfWanted c r s = _ := Traced.bind_of_ok hw _
  rw [hask]
  rfl

/-- On a silent branch a run says that it skips the branch, and does nothing else. -/
theorem execute_eq_skip (c : Collaborators σ) {r : Request}
    (hs : r.analysis.branch.isSilent = true) (s : σ) : execute c r s =
      ⟨[.event (.report
        s!"⏭️  Skipping issue notifications on branch '{r.analysis.branch.name}'")],
        .ok ⟨.skippedBranch, {}⟩, s⟩ := by
  unfold execute
  rw [if_pos hs]
  rfl

/-- Behind the first gate, a run is its parts and the way in which it ends. -/
theorem execute_eq_finish (c : Collaborators σ) {r : Request}
    (hs : r.analysis.branch.isSilent = false) : execute c r = finish (sendIfWanted c r) := by
  unfold execute
  rw [if_neg (by rw [hs]; exact Bool.false_ne_true)]
  rfl

/-- Counters are reported one by one. -/
theorem reportCounters_yields (entries : List (String × Nat)) (s : σ) :
    (Traced.fold (fun _ (name, value) => .note (.counter name value)) () entries).Yields s
      (entries.map fun (name, value) => .counter name value) (.ok ()) s := by
  induction entries with
  | nil => exact .pure () s
  | cons e rest ih => exact (Traced.Yields.note _ s).bind ih

theorem conclude_yields (response : Response) (s : σ) :
    (conclude response).Yields s
      (response.counters.entries.map fun (name, value) => .counter name value) (.ok response) s :=
  (reportCounters_yields _ s).bind_quiet ((Traced.Yields.note _ s).bind (.pure _ s))

section Finish

variable {x : Traced σ Response} {seen : List Event} {s t : σ}

/-- A run that does not fail reports its counters. -/
theorem finish_yields_ok {response : Response} (hx : x.Yields s seen (.ok response) t) :
    (finish x).Yields s
      (seen ++ response.counters.entries.map fun (name, value) => .counter name value)
      (.ok response) t :=
  (hx.onFailure_ok _).bind (conclude_yields response t)

/-- A run that fails reports nothing. -/
theorem finish_yields_error {e : Failure} (hx : x.Yields s seen (.error e) t) :
    (finish x).Yields s seen (.error e) t :=
  (hx.onFailure_quiet
    (fun e => .note (.failed s!"❌ Issue notifications failed: {e.message}"))
    (.note _ t)).bind_error _

end Finish

/-- A run on a silent branch shows nothing. -/
theorem execute_silent {r : Request} (hs : r.analysis.branch.isSilent = true) (s : σ) :
    (execute c r).Yields s [] (.ok ⟨.skippedBranch, {}⟩) s := by
  have hskip := execute_eq_skip c hs s
  exact ⟨congrArg (fun o => outward o.acts) hskip, congrArg Outcome.result hskip,
    congrArg Outcome.state hskip⟩

/-- A run without subscribers reports counters that counted nothing. -/
theorem execute_unwanted {r : Request} (hs : r.analysis.branch.isSilent = false) {s : σ}
    (hg : (c.hasSubscribers r.analysis.projectUuid NoticeKind.all s).1 = .ok false) :
    (execute c r).Yields s
      (({} : Counters).entries.map fun (name, value) => .counter name value)
      (.ok ⟨.noSubscribers, {}⟩)
      (c.hasSubscribers r.analysis.projectUuid NoticeKind.all s).2 := by
  have ha := Traced.Yields.call (.askSubscribers r.analysis.projectUuid NoticeKind.all)
    (c.hasSubscribers r.analysis.projectUuid NoticeKind.all) s
  rw [hg] at ha
  have hw : (sendIfWanted c r).Yields s [] (.ok ⟨.noSubscribers, {}⟩)
      (c.hasSubscribers r.analysis.projectUuid NoticeKind.all s).2 :=
    ha.bind ((Traced.Yields.note _ _).bind (.pure _ _))
  rw [execute_eq_finish c hs]
  exact finish_yields_ok hw

section Gates

variable {r : Request} (hs : r.analysis.branch.isSilent = false)
  (hg : ∀ s, (c.hasSubscribers r.analysis.projectUuid NoticeKind.all s).1 = .ok true)
include hs hg

/-- With a subscriber, a run shows what it sends and then, unless that failed, its counters. -/
theorem execute_ok {seen : List Event} {counters : Counters} {s t : σ}
    (hy : (sendAll c r).Yields
      (c.hasSubscribers r.analysis.projectUuid NoticeKind.all s).2 seen (.ok counters) t) :
    (execute c r).Yields s
      (seen ++ counters.entries.map fun (name, value) => .counter name value)
      (.ok ⟨.completed, counters⟩) t := by
  have ha := Traced.Yields.call (.askSubscribers r.analysis.projectUuid NoticeKind.all)
    (c.hasSubscribers r.analysis.projectUuid NoticeKind.all) s
  rw [hg] at ha
  have hw : (sendIfWanted c r).Yields s seen (.ok ⟨.completed, counters⟩) t :=
    ha.bind (hy.bind_quiet (.pure _ t))
  rw [execute_eq_finish c hs]
  exact finish_yields_ok hw

theorem execute_error {seen : List Event} {e : Failure} {s t : σ}
    (hy : (sendAll c r).Yields
      (c.hasSubscribers r.analysis.projectUuid NoticeKind.all s).2 seen (.error e) t) :
    (execute c r).Yields s seen (.error e) t := by
  have ha := Traced.Yields.call (.askSubscribers r.analysis.projectUuid NoticeKind.all)
    (c.hasSubscribers r.analysis.projectUuid NoticeKind.all) s
  rw [hg] at ha
  have hw : (sendIfWanted c r).Yields s seen (.error e) t := ha.bind (hy.bind_error _)
  rw [execute_eq_finish c hs]
  exact finish_yields_error hw

/-- **With all rules known, a run completes.** -/
theorem execute_yields (h : c.Answers issues)
    (hk : ∀ i ∈ r.period.changed issues, c.Knows i.ruleKey) (s : σ) :
    ∃ (k : Course c r issues) (t : σ), (execute c r).Yields s
      (k.seen ++ k.counters.entries.map fun (name, value) => .counter name value)
      (.ok ⟨.completed, k.counters⟩) t := by
  obtain ⟨k, t, hy⟩ := sendAll_yields h r hk
    (c.hasSubscribers r.analysis.projectUuid NoticeKind.all s).2
  exact ⟨k, t, execute_ok hs hg hy⟩

/-- **The first unknown rule ends a run**, behind the chunks in front of its own. -/
theorem execute_fails (h : c.Answers issues) {good rest : List (List Issue)}
    {known more : List Issue} {i : Issue}
    (hc : chunks changeBatchSize (r.period.changed issues) = good ++ (known ++ i :: more) :: rest)
    (hgood : ∀ chunk ∈ good, ∀ k ∈ chunk, c.Knows k.ruleKey)
    (hk : ∀ k ∈ known, c.Knows k.ruleKey) (hl : c.Lacks i.ruleKey) (s : σ) :
    ∃ users batches t, c.Resolves (assignees issues) users ∧
      List.Forall₂ (List.Forall₂ (c.Drafts (r.desk users))) good batches ∧
      (execute c r).Yields s (Collaborators.lookups (assignees issues) ++ batches.flatMap handed)
        (.error (.unknownRule i.ruleKey)) t := by
  obtain ⟨users, batches, t, hu, hd, hy⟩ := sendAll_fails h hc hgood hk hl
    (c.hasSubscribers r.analysis.projectUuid NoticeKind.all s).2
  exact ⟨users, batches, t, hu, hd, execute_error hs hg hy⟩

end Gates

end IssueNotice.Run
