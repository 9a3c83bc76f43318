import IssueNotice.Proofs.Run.Routing

/-!
# The script of a run

`Script c c' streams x y` says that `x` and `y` are one script, played by `c` and by `c'`. A script
is made of what the parts of a run are made of: streams that are read to their end, users that are
looked up, notices that are drafted and handed over. `streams` says whether it may read streams
itself; the steps of a reading may not, so that no two streams are open at a time.

`sendAll_script` goes through the parts of a run once: whoever the collaborators are, what they send
is one script. What is shown of two runs by rules for what scripts are made of needs no other walk
through the parts.
-/

namespace IssueNotice

/-- Whether an event tells the user how the run is going. -/
def Event.isRemark : Event → Bool
  | .report _ | .progress _ _ => true
  | _ => false

namespace Run

variable {σ τ α β γ : Type}

/-- One script over two sets of collaborators. -/
inductive Script (c : Collaborators σ) (c' : Collaborators τ) :
    Bool → {α : Type} → Traced σ α → Traced τ α → Prop
  | pure {streams : Bool} {α : Type} (a : α) : Script c c' streams (pure a) (pure a)
  | bind {streams : Bool} {α β : Type} {x : Traced σ α} {y : Traced τ α} {f : α → Traced σ β}
      {g : α → Traced τ β} (hx : Script c c' streams x y)
      (hf : ∀ a, Script c c' streams (f a) (g a)) : Script c c' streams (x >>= f) (y >>= g)
  | remark {streams : Bool} {e : Event} (he : e.isRemark) :
      Script c c' streams (.note e) (.note e)
  /-- A reading, whose steps read no other stream. -/
  | foldIssues {β : Type} {step : β → Issue → Traced σ β} {step' : β → Issue → Traced τ β}
      (h : ∀ b i, Script c c' false (step b i) (step' b i)) (b : β) :
      Script c c' true (c.foldIssues step b) (c'.foldIssues step' b)
  | resolveUsers {streams : Bool} (uuids : List String) :
      Script c c' streams (c.resolveUsers uuids) (c'.resolveUsers uuids)
  | draftChange {streams : Bool} (d : Desk) (i : Issue) (file : Option Component) :
      Script c c' streams (draftChange c d i file) (draftChange c' d i file)
  | sendBulk {streams : Bool} (notices : List Notice) :
      Script c c' streams (.call (.sendBulk notices) (c.sendBulk notices))
        (.call (.sendBulk notices) (c'.sendBulk notices))
  | sendSingle {streams : Bool} (notice : Notice) :
      Script c c' streams (.call (.sendSingle notice) (c.sendSingle notice))
        (.call (.sendSingle notice) (c'.sendSingle notice))

variable {c : Collaborators σ} {c' : Collaborators τ} {streams : Bool}

namespace Script

theorem ite {p : Prop} [Decidable p] {x x' : Traced σ α} {y y' : Traced τ α}
    (h : Script c c' streams x y) (h' : Script c c' streams x' y') :
    Script c c' streams (if p then x else x') (if p then y else y') := by
  by_cases hp : p
  · rw [if_pos hp, if_pos hp]
    exact h
  · rw [if_neg hp, if_neg hp]
    exact h'

theorem fold {step : β → α → Traced σ β} {step' : β → α → Traced τ β}
    (h : ∀ b a, Script c c' streams (step b a) (step' b a)) (b : β) (xs : List α) :
    Script c c' streams (Traced.fold step b xs) (Traced.fold step' b xs) := by
  induction xs generalizing b with
  | nil => exact .pure b
  | cons x rest ih => exact (h b x).bind ih

theorem mapAccum {f : β → α → Traced σ (γ × β)} {g : β → α → Traced τ (γ × β)}
    (h : ∀ b a, Script c c' streams (f b a) (g b a)) (b : β) (xs : List α) :
    Script c c' streams (Traced.mapAccum f b xs) (Traced.mapAccum g b xs) := by
  induction xs generalizing b with
  | nil => exact .pure ([], b)
  | cons x rest ih => exact (h b x).bind fun p => (ih p.2).bind fun q => .pure _

theorem each {f : α → Traced σ β} {g : α → Traced τ β} (h : ∀ a, Script c c' streams (f a) (g a))
    (xs : List α) : Script c c' streams (Traced.each f xs) (Traced.each g xs) := by
  induction xs with
  | nil => exact .pure []
  | cons x rest ih => exact (h x).bind fun b => ih.bind fun bs => .pure (b :: bs)

end Script

/-! ## The parts of a run -/

section Parts

variable (c : Collaborators σ) (c' : Collaborators τ)

theorem send_script (kind : NoticeKind) (counted : Nat) (notices : List Notice)
    (counters : Counters) :
    Script c c' streams (send c kind counted notices counters)
      (send c' kind counted notices counters) :=
  (Script.sendBulk notices).bind fun _ => .fold (fun _ notice =>
    (Script.sendSingle notice).bind fun _ => .pure _) _ notices

theorem draftChanges_script (d : Desk) (index : FileIndex d.tree) (issues : List Issue) :
    Script c c' streams (draftChanges c d index issues) (draftChanges c' d index issues) :=
  .mapAccum (fun _ i => (Script.draftChange d i _).bind fun _ => .pure _) index issues

theorem announce_script (d : Desk) (p : Progress d.tree) :
    Script c c' streams (announce c d p) (announce c' d p) := by
  refine (draftChanges_script c c' d p.index _).bind fun drafts => ?_
  refine (send_script c c' .issueChanges 1 drafts.1 p.counters).bind fun counters => ?_
  exact (Script.remark rfl).bind fun _ => .pure _

theorem announceChunks_script (d : Desk) (q : Counters × Nat) (chunked : List (List Issue)) :
    Script c c' streams (announceChunks c d q chunked) (announceChunks c' d q chunked) :=
  .fold (fun _ chunk => (Script.each (fun i => .draftChange d i _) chunk).bind fun notices =>
    (send_script c c' .issueChanges 1 notices _).bind fun _ => (Script.remark rfl).bind fun _ =>
      .pure _) q chunked

theorem routeIssue_script (period : LeakPeriod) (d : Desk) (p : Progress d.tree) (i : Issue) :
    Script c c' streams (routeIssue c period d p i) (routeIssue c' period d p i) := by
  unfold routeIssue
  cases period.route i with
  | ignored => exact .pure _
  | counted onLeak => exact .pure _
  | announced => exact .ite (announce_script c c' d _) (.pure _)

theorem routeIssues_script (period : LeakPeriod) (d : Desk) :
    Script c c' true (routeIssues c period d) (routeIssues c' period d) :=
  (Script.foldIssues (routeIssue_script c c' period d) {}).bind fun p =>
    .ite (.pure p) (announce_script c c' d p)

theorem sendNewIssues_script (d : Desk) (rollup : Rollup) (counters : Counters) :
    Script c c' streams (sendNewIssues c d rollup counters) (sendNewIssues c' d rollup counters) :=
  (Script.remark rfl).bind fun _ => send_script c c' .newIssues 1 _ counters

theorem sendMyNewIssues_script (d : Desk) (rollup : Rollup) (counters : Counters) :
    Script c c' streams (sendMyNewIssues c d rollup counters)
      (sendMyNewIssues c' d rollup counters) :=
  (Script.resolveUsers _).bind fun _ => .ite (.pure counters)
    ((Script.remark rfl).bind fun _ => send_script c c' .myNewIssues _ _ counters)

theorem assigneeUuids_script : Script c c' true (assigneeUuids c) (assigneeUuids c') :=
  (Script.foldIssues (fun _ _ => .pure _) _).bind fun _ => .pure _

/-- **What a run sends is one script**, whoever its collaborators are. -/
theorem sendAll_script (r : Request) : Script c c' true (sendAll c r) (sendAll c' r) := by
  refine (assigneeUuids_script c c').bind fun uuids => ?_
  refine (Script.resolveUsers uuids).bind fun users => ?_
  refine (Script.remark rfl).bind fun _ => ?_
  refine (routeIssues_script c c' _ _).bind fun p => ?_
  refine .ite ?_ (.pure _)
  exact (sendNewIssues_script c c' _ _ _).bind fun counters =>
    sendMyNewIssues_script c c' _ _ counters

end Parts

end Run

end IssueNotice
