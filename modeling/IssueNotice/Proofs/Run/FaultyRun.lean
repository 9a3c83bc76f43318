import IssueNotice.Proofs.Run.Completion
import IssueNotice.Proofs.Run.Follows
import IssueNotice.Proofs.Run.Script
import IssueNotice.Proofs.Run.Store

/-!
# A fault cuts a run

A script played by collaborators with a fault follows the same script played by the collaborators
without it (`Script.mimics`). `execute_withFault` is the result for whole runs: the calls of a run
with a fault are those of the run without it up to the call that the fault names, and a last
message.
-/

namespace IssueNotice.Run

variable {σ : Type} {f : Fault} (c : Collaborators σ)

/-! ## Calls -/

theorem openSession_mimics :
    Mimics f (Traced.call .openSession c.openSession)
      (Traced.call .openSession (withFaults [f] c).openSession) :=
  fun past _ => .call rfl rfl (by rw [counts_snoc past .openSession]; rfl)

theorem selectUsers_mimics (uuids : List String) :
    Mimics f (Traced.call (.selectUsers uuids) (c.selectUsers uuids))
      (Traced.call (.selectUsers uuids) ((withFaults [f] c).selectUsers uuids)) :=
  fun past _ => .call rfl rfl (by rw [counts_snoc past (.selectUsers uuids)]; rfl)

theorem findRule_mimics (key : String) :
    Mimics f (Traced.call (.findRule key) (c.findRule key))
      (Traced.call (.findRule key) ((withFaults [f] c).findRule key)) :=
  fun past _ => .call rfl rfl (by rw [counts_snoc past (.findRule key)]; rfl)

theorem sendBulk_mimics (notices : List Notice) :
    Mimics f (Traced.call (.sendBulk notices) (c.sendBulk notices))
      (Traced.call (.sendBulk notices) ((withFaults [f] c).sendBulk notices)) :=
  fun past _ => .call rfl rfl (by rw [counts_snoc past (.sendBulk notices)]; rfl)

theorem sendSingle_mimics (notice : Notice) :
    Mimics f (Traced.call (.sendSingle notice) (c.sendSingle notice))
      (Traced.call (.sendSingle notice) ((withFaults [f] c).sendSingle notice)) :=
  fun past _ => .call rfl rfl (by rw [counts_snoc past (.sendSingle notice)]; rfl)

theorem resolveUsers_mimics (uuids : List String) :
    Mimics f (c.resolveUsers uuids) ((withFaults [f] c).resolveUsers uuids) := by
  unfold Collaborators.resolveUsers
  by_cases he : uuids.isEmpty
  · simp only [if_pos he]
    exact .pure _
  · simp only [if_neg he]
    refine (openSession_mimics c).bind fun _ => ?_
    refine Mimics.bind (fun past s => ?_) fun _ => .pure _
    exact (selectUsers_mimics c uuids past s).andFinally rfl c.closeSession

/-! ## Scripts -/

section Scripts

variable {τ α : Type} {c : Collaborators σ}

/-- A script that may not read streams does not. -/
theorem Script.leavesStreams {c' : Collaborators τ} {streams : Bool} {x : Traced σ α}
    {y : Traced τ α} (h : Script c c' streams x y) (hs : streams = false) :
    x.Always leavesStreams := by
  have hevent : ∀ {e : Event}, e ≠ .openStream → Run.leavesStreams (.event e) :=
    fun he => ⟨nofun, fun h => he (Act.event.inj h)⟩
  induction h with
  | pure a => exact .pure a
  | bind _ _ ihx ihf => exact (ihx hs).bind fun a => ihf a hs
  | @remark _ e he => exact .note (hevent (by rintro rfl; cases he))
  | foldIssues => cases hs
  | resolveUsers uuids =>
    unfold Collaborators.resolveUsers
    split
    · exact .pure _
    · refine (Traced.Always.call (hevent (by nofun)) _).bind fun _ =>
        (Traced.Always.andFinally (.call (hevent (by nofun)) _) ?_).bind fun _ => .pure _
      exact fun _ a ha => List.mem_singleton.mp ha ▸ hevent (by nofun)
  | draftChange d i file =>
    exact (Traced.Always.call (hevent (by nofun)) _).bind fun _ => .ofExcept _
  | sendBulk notices => exact .call (hevent (by nofun)) _
  | sendSingle notice => exact .call (hevent (by nofun)) _

/-- **A script with a fault follows the script without it.** -/
theorem Script.mimics {streams : Bool} {x : Traced σ α} {y : Traced (σ × CallCounts) α}
    (h : Script c (withFaults [f] c) streams x y) : Mimics f x y := by
  induction h with
  | pure a => exact .pure a
  | bind _ _ ihx ihf => exact ihx.bind ihf
  | @remark _ e he =>
    refine .note ?_
    cases e <;> first | rfl | cases he
  | foldIssues h b ih => exact foldIssues_mimics c ih (fun b i => (h b i).leavesStreams rfl) b
  | resolveUsers uuids => exact resolveUsers_mimics c uuids
  | draftChange d i file => exact (findRule_mimics c i.ruleKey).bind fun _ => .ofExcept _
  | sendBulk notices => exact sendBulk_mimics c notices
  | sendSingle notice => exact sendSingle_mimics c notice

end Scripts

/-- The question for subscribers comes first, so that it is number one. -/
theorem sendIfWanted_follows (r : Request) (s : σ) :
    Follows f [] (sendIfWanted c r s) (sendIfWanted (withFaults [f] c) r (s, {})) := by
  have hask : Follows f [] (Traced.call (.askSubscribers r.analysis.projectUuid NoticeKind.all)
        (c.hasSubscribers r.analysis.projectUuid NoticeKind.all) s)
      (Traced.call (.askSubscribers r.analysis.projectUuid NoticeKind.all)
        ((withFaults [f] c).hasSubscribers r.analysis.projectUuid NoticeKind.all)
          (s, counts [])) :=
    .call rfl rfl rfl
  refine hask.bind fun wanted _ => ?_
  cases wanted with
  | true => exact ((sendAll_script c (withFaults [f] c) r).mimics.bind fun _ => .pure _) _ _
  | false => exact ((Mimics.note rfl).bind fun _ => .pure _) _ _

/-! ## Whole runs -/

/-- Whether an act is no call that can be made to fail. -/
def isSafe (a : Act) : Prop := ∃ e, a = .event e ∧ e.fallible = none

theorem cut_of_isSafe {past as : List Act} (h : ∀ a ∈ as, isSafe a) : cut f past as = none := by
  induction as generalizing past with
  | nil => rfl
  | cons a rest ih =>
    obtain ⟨e, rfl, he⟩ := h a List.mem_cons_self
    rw [← List.singleton_append, cut_append_of_none (cut_of_none (a := .event e) he),
      ih fun b hb => h b (List.mem_cons_of_mem _ hb)]
    rfl

theorem conclude_isSafe (response : Response) :
    (conclude response : Traced σ Response).Always isSafe :=
  (Traced.Always.fold (fun _ _ => .note ⟨_, rfl, rfl⟩) () _).bind fun _ =>
    (Traced.Always.note ⟨_, rfl, rfl⟩).bind fun _ => .pure _

/-- Behind parts that the fault does not hit, a run ends as it does without the fault. -/
theorem finish_of_cut_none {x : Traced σ Response} {y : Traced (σ × CallCounts) Response} {s : σ}
    {n m : CallCounts} (hcut : cut f [] (x s).acts = none)
    (hp : y (s, n) = ⟨(x s).acts, (x s).result, (x s).state, m⟩) :
    cut f [] (finish x s).acts = none ∧
      finish y (s, n) = ⟨(finish x s).acts, (finish x s).result, (finish x s).state, m⟩ := by
  cases hr : (x s).result with
  | ok response =>
    rw [finish_of_ok hr, finish_of_ok (x := y) (by rw [hp, hr]), hp,
      cut_append_of_none hcut, cut_of_isSafe (conclude_isSafe response ())]
    exact ⟨rfl, rfl⟩
  | error e =>
    rw [finish_of_error hr, finish_of_error (x := y) (by rw [hp, hr]), hp,
      cut_append_of_none hcut, cut_of_none (a := .event (.failed _)) rfl]
    exact ⟨rfl, rfl⟩

/-- A run with a fault is the run without it, or is cut and ends with a message. -/
theorem execute_follows (r : Request) (s : σ) :
    (cut f [] (execute c r s).acts = none ∧ ∃ n, execute (withFaults [f] c) r (s, {}) =
      ⟨(execute c r s).acts, (execute c r s).result, (execute c r s).state, n⟩) ∨
    ∃ front, cut f [] (execute c r s).acts = some front ∧
      calls (execute (withFaults [f] c) r (s, {})).acts =
        calls front ++ [.failed ("❌ Issue notifications failed: " ++ f.failure.message)] ∧
      (execute (withFaults [f] c) r (s, {})).result = .error f.failure := by
  by_cases hs : r.analysis.branch.isSilent
  · rw [execute_eq_skip _ hs, execute_eq_skip _ hs]
    exact .inl ⟨cut_of_none (a := .event (.report _)) rfl, _, rfl⟩
  · replace hs : r.analysis.branch.isSilent = false := by simpa using hs
    rw [execute_eq_finish c hs, execute_eq_finish (withFaults [f] c) hs]
    rcases sendIfWanted_follows (f := f) c r s with ⟨hcut, hp⟩ | ⟨front, hcut, hcalls, hresult⟩
    · obtain ⟨hcut', hp'⟩ := finish_of_cut_none hcut hp
      exact .inl ⟨hcut', _, hp'⟩
    · obtain ⟨more, hmore⟩ := exists_acts_finish (sendIfWanted c r) s
      have hacts : cut f [] (finish (sendIfWanted c r) s).acts = some front := by
        rw [hmore]
        exact cut_append_of_some hcut more
      have hend := finish_of_error hresult
      refine .inr ⟨front, hacts, ?_, congrArg Outcome.result hend⟩
      refine (congrArg (fun o => calls o.acts) hend).trans ?_
      rw [calls_append, hcalls]
      rfl

/-- **A fault cuts a run, and does nothing else.** If the run without it makes the call that it
names, or does the read, the calls up to there are made, then one message with the failure, and the
run ends with that failure. If not, the run is the one without the fault. -/
theorem execute_withFault (r : Request) (f : Fault) (s : σ) :
    (∀ before act after, (execute c r s).acts = before ++ act :: after → f.Hits before act →
      calls (execute (withFaults [f] c) r (s, {})).acts = calls (before ++ [act]) ++
          [.failed ("❌ Issue notifications failed: " ++ f.failure.message)] ∧
        (execute (withFaults [f] c) r (s, {})).result = .error f.failure) ∧
    ((∀ before act after, (execute c r s).acts = before ++ act :: after → ¬ f.Hits before act) →
      (execute (withFaults [f] c) r (s, {})).acts = (execute c r s).acts ∧
        (execute (withFaults [f] c) r (s, {})).result = (execute c r s).result ∧
        (execute (withFaults [f] c) r (s, {})).state.1 = (execute c r s).state) := by
  rcases execute_follows (f := f) c r s with ⟨hcut, n, hp⟩ | ⟨front, hcut, hcalls, hresult⟩
  · refine ⟨fun before act after hacts hhits => ?_, fun _ => ?_⟩
    · rw [hacts, cut_of_hits hhits] at hcut
      exact absurd hcut (by simp)
    · rw [hp]
      exact ⟨rfl, rfl, rfl⟩
  · refine ⟨fun before act after hacts hhits => ?_, fun hnone => ?_⟩
    · rw [hacts, cut_of_hits hhits] at hcut
      rw [hcalls, Option.some.inj hcut]
      exact ⟨rfl, hresult⟩
    · obtain ⟨before, act, after, hacts, hhits⟩ := hits_of_cut hcut
      exact absurd hhits (hnone before act after hacts)

/-- A failing read of the small store: the first stream breaks before its second issue. -/
theorem execute_withFault_sample :
    calls (execute (withFaults [⟨.firstRead, 2, .other "gone" []⟩] (sampleStore []).collaborators)
        sampleRequest ({}, {})).acts =
      [.askSubscribers "project" NoticeKind.all, .openStream,
        .failed "❌ Issue notifications failed: gone"] ∧
    (execute (withFaults [⟨.firstRead, 2, .other "gone" []⟩] (sampleStore []).collaborators)
        sampleRequest ({}, {})).result = .error (.other "gone" []) := by
  obtain ⟨hcut, -⟩ := execute_withFault (sampleStore []).collaborators sampleRequest
    ⟨.firstRead, 2, .other "gone" []⟩ {}
  exact hcut [.event (.askSubscribers "project" NoticeKind.all), .event .openStream, .read] .read _
    rfl (by decide)

end IssueNotice.Run
