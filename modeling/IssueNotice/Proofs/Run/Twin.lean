import IssueNotice.Proofs.Run.Completion
import IssueNotice.Proofs.Run.Script

/-!
# One program over two sets of collaborators

`Twin c c' x y` says that `x` and `y` are one program, call by call: there is one rule for each call
of a collaborator, each release and each read, and one for each way in which computations are put
together. A script is such a program (`Script.twin`), so that a property of everything that a run
can do is proved by one induction over these rules.

Results:
* `sendIfWanted_twin`: what two runs for one request do behind the first gate are twins, whoever
  their collaborators are.
* `Twin.alike`, `execute_alike`: over collaborators that answer alike, twins do the same, and so do
  whole runs. The states of both may differ, as long as a relation between them is kept.
* `Twin.never_parting`: how a run ended is not told before its end, and no counter is reported.
-/

namespace IssueNotice

/-- Whether an act belongs to the end of a run: it reports a counter or tells how the run ended. -/
def Act.isParting : Act → Bool
  | .event (.failed _) | .event (.completed _) | .event (.counter _ _) => true
  | _ => false

namespace Run

variable {σ τ α β : Type}

/-- One program over two sets of collaborators. -/
inductive Twin (c : Collaborators σ) (c' : Collaborators τ) :
    {α : Type} → Traced σ α → Traced τ α → Prop
  | pure {α : Type} (a : α) : Twin c c' (pure a) (pure a)
  | fail {α : Type} (e : Failure) : Twin (α := α) c c' (.fail e) (.fail e)
  | bind {α β : Type} {x : Traced σ α} {y : Traced τ α} {f : α → Traced σ β} {g : α → Traced τ β}
      (hx : Twin c c' x y) (hf : ∀ a, Twin c c' (f a) (g a)) : Twin c c' (x >>= f) (y >>= g)
  | onFailure {α : Type} {x : Traced σ α} {y : Traced τ α} {f : Failure → Traced σ Unit}
      {g : Failure → Traced τ Unit} (hx : Twin c c' x y) (hf : ∀ e, Twin c c' (f e) (g e)) :
      Twin c c' (x.onFailure f) (y.onFailure g)
  | andFinally {α : Type} {x : Traced σ α} {y : Traced τ α} {last : Traced σ Unit}
      {last' : Traced τ Unit} (hx : Twin c c' x y) (hl : Twin c c' last last') :
      Twin c c' (x.andFinally last) (y.andFinally last')
  | note {e : Event} (he : e.isRemark) : Twin c c' (.note e) (.note e)
  | read : Twin c c' .read .read
  | hasSubscribers (uuid : String) (kinds : List NoticeKind) :
      Twin c c' (.call (.askSubscribers uuid kinds) (c.hasSubscribers uuid kinds))
        (.call (.askSubscribers uuid kinds) (c'.hasSubscribers uuid kinds))
  | openStream : Twin c c' (.call .openStream c.openStream) (.call .openStream c'.openStream)
  | closeStream (reads : Nat) : Twin c c' (c.endStream reads) (c'.endStream reads)
  | openSession : Twin c c' (.call .openSession c.openSession) (.call .openSession c'.openSession)
  | selectUsers (uuids : List String) :
      Twin c c' (.call (.selectUsers uuids) (c.selectUsers uuids))
        (.call (.selectUsers uuids) (c'.selectUsers uuids))
  | closeSession :
      Twin c c' (.release .closeSession c.closeSession) (.release .closeSession c'.closeSession)
  | findRule (key : String) :
      Twin c c' (.call (.findRule key) (c.findRule key)) (.call (.findRule key) (c'.findRule key))
  | sendBulk (notices : List Notice) :
      Twin c c' (.call (.sendBulk notices) (c.sendBulk notices))
        (.call (.sendBulk notices) (c'.sendBulk notices))
  | sendSingle (notice : Notice) :
      Twin c c' (.call (.sendSingle notice) (c.sendSingle notice))
        (.call (.sendSingle notice) (c'.sendSingle notice))

namespace Twin

variable {c : Collaborators σ} {c' : Collaborators τ}

theorem ofExcept (r : Except Failure α) :
    Twin c c' (Traced.ofExcept r : Traced σ α) (Traced.ofExcept r) := by
  cases r with
  | ok a => exact .pure a
  | error e => exact .fail e

theorem readAll {step : β → Issue → Traced σ β} {step' : β → Issue → Traced τ β}
    (h : ∀ b i, Twin c c' (step b i) (step' b i)) (reads : Nat) (b : β) (stream : List Read) :
    Twin c c' (c.readAll step reads b stream) (c'.readAll step' reads b stream) := by
  induction stream generalizing reads b with
  | nil => exact Twin.read.bind fun _ => (closeStream _).bind fun _ => .pure b
  | cons r rest ih =>
    cases r with
    | error e => exact Twin.read.bind fun _ => (closeStream _).bind fun _ => .fail e
    | ok i =>
      refine Twin.read.bind fun _ => ?_
      exact ((h b i).onFailure fun _ => closeStream _).bind fun b => ih (reads + 1) b

theorem foldIssues {step : β → Issue → Traced σ β} {step' : β → Issue → Traced τ β}
    (h : ∀ b i, Twin c c' (step b i) (step' b i)) (b : β) :
    Twin c c' (c.foldIssues step b) (c'.foldIssues step' b) :=
  Twin.openStream.bind fun stream => readAll h 0 b stream

theorem resolveUsers (uuids : List String) :
    Twin c c' (c.resolveUsers uuids) (c'.resolveUsers uuids) := by
  unfold Collaborators.resolveUsers
  by_cases he : uuids.isEmpty
  · simp only [if_pos he]
    exact .pure _
  · simp only [if_neg he]
    refine Twin.openSession.bind fun _ => ?_
    exact ((selectUsers uuids).andFinally closeSession).bind fun _ => .pure _

end Twin

/-! ## Scripts are twins -/

/-- **One script, played by two sets of collaborators, is one program.** -/
theorem Script.twin {c : Collaborators σ} {c' : Collaborators τ} {streams : Bool} {x : Traced σ α}
    {y : Traced τ α} (h : Script c c' streams x y) : Twin c c' x y := by
  induction h with
  | pure a => exact .pure a
  | bind _ _ ihx ihf => exact ihx.bind ihf
  | remark he => exact .note he
  | foldIssues _ b ih => exact .foldIssues ih b
  | resolveUsers uuids => exact .resolveUsers uuids
  | draftChange d i file => exact (Twin.findRule i.ruleKey).bind fun _ => .ofExcept _
  | sendBulk notices => exact .sendBulk notices
  | sendSingle notice => exact .sendSingle notice

section Parts

variable (c : Collaborators σ) (c' : Collaborators τ)

theorem sendAll_twin (r : Request) : Twin c c' (sendAll c r) (sendAll c' r) :=
  (sendAll_script c c' r).twin

theorem sendIfWanted_twin (r : Request) : Twin c c' (sendIfWanted c r) (sendIfWanted c' r) := by
  refine (Twin.hasSubscribers _ _).bind fun wanted => ?_
  cases wanted with
  | true => exact (sendAll_twin c c' r).bind fun _ => .pure _
  | false => exact (Twin.note rfl).bind fun _ => .pure _

end Parts

/-! ## Collaborators that answer alike -/

/-- Two outcomes are the same, but for states that are related. -/
structure OutcomeAlike (R : σ → τ → Prop) (o : Outcome σ α) (p : Outcome τ α) : Prop where
  acts : o.acts = p.acts
  result : o.result = p.result
  state : R o.state p.state

/-- From related states, two answers are the same and leave related states. -/
def AnswersAlike (R : σ → τ → Prop) (f : Answer σ α) (g : Answer τ α) : Prop :=
  ∀ s t, R s t → (f s).1 = (g t).1 ∧ R (f s).2 (g t).2

/-- From related states, two sets of collaborators answer the same and leave related states. -/
structure CollaboratorsAlike (R : σ → τ → Prop) (c : Collaborators σ) (c' : Collaborators τ) :
    Prop where
  hasSubscribers : ∀ uuid kinds,
    AnswersAlike R (c.hasSubscribers uuid kinds) (c'.hasSubscribers uuid kinds)
  openStream : AnswersAlike R c.openStream c'.openStream
  closeStream : ∀ s t, R s t → R (c.closeStream s) (c'.closeStream t)
  openSession : AnswersAlike R c.openSession c'.openSession
  selectUsers : ∀ uuids, AnswersAlike R (c.selectUsers uuids) (c'.selectUsers uuids)
  closeSession : ∀ s t, R s t → R (c.closeSession s) (c'.closeSession t)
  findRule : ∀ key, AnswersAlike R (c.findRule key) (c'.findRule key)
  sendBulk : ∀ notices, AnswersAlike R (c.sendBulk notices) (c'.sendBulk notices)
  sendSingle : ∀ notice, AnswersAlike R (c.sendSingle notice) (c'.sendSingle notice)

section Alike

variable {R : σ → τ → Prop} {s : σ} {t : τ} {x : Traced σ α} {y : Traced τ α}

theorem AnswersAlike.call {f : Answer σ α} {g : Answer τ α} (h : AnswersAlike R f g) (hR : R s t)
    (e : Event) : OutcomeAlike R (Traced.call e f s) (Traced.call e g t) :=
  ⟨rfl, (h s t hR).1, (h s t hR).2⟩

theorem OutcomeAlike.bind {f : α → Traced σ β} {g : α → Traced τ β}
    (hx : OutcomeAlike R (x s) (y t))
    (hf : ∀ a s t, R s t → OutcomeAlike R (f a s) (g a t)) :
    OutcomeAlike R ((x >>= f) s) ((y >>= g) t) := by
  cases hr : (x s).result with
  | error e =>
    rw [Traced.bind_of_error hr, Traced.bind_of_error (hx.result ▸ hr)]
    exact ⟨hx.acts, rfl, hx.state⟩
  | ok a =>
    have hp := hf a _ _ hx.state
    rw [Traced.bind_of_ok hr, Traced.bind_of_ok (hx.result ▸ hr)]
    exact ⟨by rw [hx.acts, hp.acts], hp.result, hp.state⟩

theorem OutcomeAlike.andFinally {last : Traced σ Unit} {last' : Traced τ Unit}
    (hx : OutcomeAlike R (x s) (y t))
    (hl : ∀ s t, R s t → OutcomeAlike R (last s) (last' t)) :
    OutcomeAlike R (x.andFinally last s) (y.andFinally last' t) := by
  have hp := hl _ _ hx.state
  exact ⟨by rw [Traced.andFinally, Traced.andFinally, hx.acts, hp.acts], hx.result, hp.state⟩

theorem OutcomeAlike.onFailure {f : Failure → Traced σ Unit} {g : Failure → Traced τ Unit}
    (hx : OutcomeAlike R (x s) (y t))
    (hf : ∀ e s t, R s t → OutcomeAlike R (f e s) (g e t)) :
    OutcomeAlike R (x.onFailure f s) (y.onFailure g t) := by
  cases hr : (x s).result with
  | ok a =>
    rw [Traced.onFailure_of_ok hr, Traced.onFailure_of_ok (hx.result ▸ hr)]
    exact hx
  | error e =>
    rw [Traced.onFailure_of_error hr, Traced.onFailure_of_error (hx.result ▸ hr)]
    exact hx.andFinally (hf e)

/-- **Over collaborators that answer alike, twins do the same.** -/
theorem Twin.alike {c : Collaborators σ} {c' : Collaborators τ} (hc : CollaboratorsAlike R c c')
    (h : Twin c c' x y) (hR : R s t) : OutcomeAlike R (x s) (y t) := by
  induction h generalizing s t with
  | pure a => exact ⟨rfl, rfl, hR⟩
  | fail e => exact ⟨rfl, rfl, hR⟩
  | bind _ _ ihx ihf => exact (ihx hR).bind fun a s t hR => ihf a hR
  | onFailure _ _ ihx ihf => exact (ihx hR).onFailure fun e s t hR => ihf e hR
  | andFinally _ _ ihx ihl => exact (ihx hR).andFinally fun s t hR => ihl hR
  | note he => exact ⟨rfl, rfl, hR⟩
  | read => exact ⟨rfl, rfl, hR⟩
  | hasSubscribers uuid kinds => exact (hc.hasSubscribers uuid kinds).call hR _
  | openStream => exact hc.openStream.call hR _
  | closeStream reads => exact ⟨rfl, rfl, hc.closeStream _ _ hR⟩
  | openSession => exact hc.openSession.call hR _
  | selectUsers uuids => exact (hc.selectUsers uuids).call hR _
  | closeSession => exact ⟨rfl, rfl, hc.closeSession _ _ hR⟩
  | findRule key => exact (hc.findRule key).call hR _
  | sendBulk notices => exact (hc.sendBulk notices).call hR _
  | sendSingle notice => exact (hc.sendSingle notice).call hR _

/-- **Over collaborators that answer alike, two runs for one request do the same.** -/
theorem execute_alike {c : Collaborators σ} {c' : Collaborators τ}
    (hc : CollaboratorsAlike R c c') (r : Request) (hR : R s t) :
    OutcomeAlike R (execute c r s) (execute c' r t) := by
  cases hs : r.analysis.branch.isSilent with
  | true =>
    rw [execute_eq_skip c hs, execute_eq_skip c' hs]
    exact ⟨rfl, rfl, hR⟩
  | false =>
    have h := (sendIfWanted_twin c c' r).alike hc hR
    rw [execute_eq_finish c hs, execute_eq_finish c' hs, finish_apply, finish_apply]
    exact ⟨by rw [h.acts, h.result], h.result, h.state⟩

end Alike

/-! ## What no part of a run does -/

/-- **No part of a run tells how the run ended, or reports a counter.** -/
theorem Twin.never_parting {c : Collaborators σ} {c' : Collaborators τ} {x : Traced σ α}
    {y : Traced τ α} (h : Twin c c' x y) : x.Always fun a => a.isParting = false := by
  have hone : ∀ {β : Type} {z : Traced σ β} {a : Act}, (∀ s, (z s).acts = [a]) →
      a.isParting = false → z.Always fun a => a.isParting = false :=
    fun hz ha s b hb => List.mem_singleton.mp (hz s ▸ hb) ▸ ha
  induction h with
  | pure a => exact .pure a
  | fail e => exact .ofExcept (.error e)
  | bind _ _ ihx ihf => exact ihx.bind ihf
  | onFailure _ _ ihx ihf => exact ihx.onFailure ihf
  | andFinally _ _ ihx ihl => exact ihx.andFinally ihl
  | @note e he =>
    refine hone (fun _ => rfl) ?_
    cases e <;> first | rfl | exact absurd he Bool.false_ne_true
  | _ => exact hone (fun _ => rfl) rfl

end Run

end IssueNotice
