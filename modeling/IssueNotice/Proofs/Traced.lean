import IssueNotice.Run.Collaborators
import Mathlib.Data.List.Forall2

/-!
# Laws of traced computations

Traced computations are a lawful monad, so that a run can be regrouped without changing what it
does. `Traced.Yields x s seen r t` says what running `x` from `s` amounts to when one looks at its
outward events only: notices handed over, users looked up and counters reported. It has rules for
the ways in which computations are put together.
-/

namespace IssueNotice

attribute [ext] Outcome

/-! ## Calls and outward events -/

/-- Whether an event gives something back. -/
def Event.isRelease : Event → Bool
  | .closeStream _ | .closeSession => true
  | _ => false

/-- The calls among some acts, in order: all events but releases. -/
def Run.calls (acts : List Act) : List Event :=
  (acts.filterMap Act.event?).filter fun e => !e.isRelease

@[simp]
theorem Run.calls_append (as bs : List Act) : calls (as ++ bs) = calls as ++ calls bs := by
  unfold calls
  rw [List.filterMap_append, List.filter_append]

/-- Whether an event shows outside of a run: it hands notices over, looks users up or reports a
counter. -/
def Event.isOutward : Event → Bool
  | .sendBulk _ | .sendSingle _ | .selectUsers _ | .counter _ _ => true
  | _ => false

/-- The outward events among some acts, in order. -/
def outward (acts : List Act) : List Event :=
  (acts.filterMap Act.event?).filter Event.isOutward

@[simp]
theorem outward_append (as bs : List Act) : outward (as ++ bs) = outward as ++ outward bs := by
  unfold outward
  rw [List.filterMap_append, List.filter_append]

/-- Outward events are calls. -/
theorem outward_eq_calls (acts : List Act) :
    outward acts = (Run.calls acts).filter Event.isOutward := by
  unfold outward Run.calls
  rw [List.filter_filter]
  refine List.filter_congr fun e _ => ?_
  cases e <;> rfl

namespace Traced

variable {σ α β γ : Type}

/-! ## The monad -/

theorem bind_of_ok {x : Traced σ α} {s : σ} {a : α} (h : (x s).result = .ok a)
    (f : α → Traced σ β) :
    (x >>= f) s = ⟨(x s).acts ++ (f a (x s).state).acts, (f a (x s).state).result,
      (f a (x s).state).state⟩ := by
  change Traced.bind x f s = _
  unfold Traced.bind
  simp only [h]

theorem bind_of_error {x : Traced σ α} {s : σ} {e : Failure} (h : (x s).result = .error e)
    (f : α → Traced σ β) : (x >>= f) s = ⟨(x s).acts, .error e, (x s).state⟩ := by
  change Traced.bind x f s = _
  unfold Traced.bind
  simp only [h]

/-- Where two computations in a row end with a value, both do. -/
theorem exists_of_bind_ok {x : Traced σ α} {f : α → Traced σ β} {s : σ} {b : β}
    (h : ((x >>= f) s).result = .ok b) :
    ∃ a, (x s).result = .ok a ∧ (f a (x s).state).result = .ok b := by
  cases hr : (x s).result with
  | error e =>
    rw [bind_of_error hr] at h
    exact absurd h (by simp)
  | ok a =>
    rw [bind_of_ok hr] at h
    exact ⟨a, rfl, h⟩

/-- Where two computations in a row fail, the first fails, or the second behind it. -/
theorem of_bind_error {x : Traced σ α} {f : α → Traced σ β} {s : σ} {e : Failure}
    (h : ((x >>= f) s).result = .error e) :
    (x s).result = .error e ∨
      ∃ a, (x s).result = .ok a ∧ (f a (x s).state).result = .error e := by
  cases hr : (x s).result with
  | error e' =>
    rw [bind_of_error hr] at h
    exact .inl (congrArg _ (Except.error.inj h))
  | ok a =>
    rw [bind_of_ok hr] at h
    exact .inr ⟨a, rfl, h⟩

theorem bind_congr_of_ok {x : Traced σ α} {f g : α → Traced σ β}
    (h : ∀ s a, (x s).result = .ok a → f a = g a) : x >>= f = x >>= g := by
  funext s
  cases hr : (x s).result with
  | error e => rw [bind_of_error hr, bind_of_error hr]
  | ok a => rw [bind_of_ok hr, bind_of_ok hr, h s a hr]

instance : LawfulMonad (Traced σ) := LawfulMonad.mk' (Traced σ)
  (fun x => by
    funext s
    change Traced.bind x Traced.pure s = x s
    unfold Traced.bind Traced.pure
    rcases x s with ⟨acts, _ | a, t⟩ <;> simp)
  (fun _ _ => rfl)
  (fun x f g => by
    funext s
    change Traced.bind (Traced.bind x f) g s = Traced.bind x (fun a => Traced.bind (f a) g) s
    unfold Traced.bind
    rcases x s with ⟨acts, _ | a, t⟩
    · rfl
    · rcases hf : f a t with ⟨acts', _ | b, u⟩ <;> simp [hf])

@[simp]
theorem result_ofExcept (r : Except Failure α) (s : σ) : (ofExcept r s).result = r := by
  cases r <;> rfl

/-- A call whose answer is a changed answer, used unchanged. -/
theorem call_bind_map {e : Event} {answer answer' : σ → Except Failure α × σ} {g : α → α} {s : σ}
    (h : answer' s = ((answer s).1.map g, (answer s).2)) (f : α → Traced σ β) :
    (call e answer' >>= f) s = (call e answer >>= fun a => f (g a)) s := by
  change Traced.bind (call e answer') f s = Traced.bind (call e answer) (fun a => f (g a)) s
  unfold Traced.bind call
  rw [h]
  rcases answer s with ⟨_ | a, t⟩ <;> rfl

/-- A fold whose steps do nothing is the fold of their values. -/
theorem fold_pure (f : β → α → β) (b : β) (xs : List α) :
    fold (fun b a => (pure (f b a) : Traced σ β)) b xs = pure (xs.foldl f b) := by
  induction xs generalizing b with
  | nil => rfl
  | cons x rest ih => simp only [fold, pure_bind, ih, List.foldl_cons]

theorem fold_congr {step step' : β → α → Traced σ β} {xs : List α}
    (h : ∀ b, ∀ a ∈ xs, step b a = step' b a) (b : β) : fold step b xs = fold step' b xs := by
  induction xs generalizing b with
  | nil => rfl
  | cons x rest ih =>
    have hrest := ih fun b a ha => h b a (List.mem_cons_of_mem x ha)
    simp only [fold, h b x List.mem_cons_self, hrest]

/-! ## Lists of values -/

/-- Runs a computation for each item in turn and lists the values. -/
def each (f : α → Traced σ β) : List α → Traced σ (List β)
  | [] => pure []
  | a :: rest => do
    let b ← f a
    let bs ← each f rest
    pure (b :: bs)

/-- **A value that is carried along without a say in what comes out can be left aside.** What it may
be is kept from item to item. -/
theorem mapAccum_eq_each {f : β → α → Traced σ (γ × β)} {g : α → Traced σ γ} {next : β → α → β}
    {p : β → Prop} (hf : ∀ b a, p b → f b a = do let c ← g a; pure (c, next b a))
    (hp : ∀ b a, p b → p (next b a)) {b : β} (hb : p b) (xs : List α) :
    mapAccum f b xs = (do let cs ← each g xs; pure (cs, xs.foldl next b)) := by
  induction xs generalizing b with
  | nil => simp [mapAccum, each]
  | cons x rest ih =>
    simp only [mapAccum, each, hf b x hb, ih (hp b x hb), bind_assoc, pure_bind, List.foldl_cons]

theorem each_congr {f g : α → Traced σ β} {xs : List α} (h : ∀ a ∈ xs, f a = g a) :
    each f xs = each g xs := by
  induction xs with
  | nil => rfl
  | cons x rest ih =>
    have hrest := ih fun a ha => h a (List.mem_cons_of_mem x ha)
    simp only [each, h x List.mem_cons_self, hrest]

/-- The values of a computation for each item in turn. -/
theorem forall₂_of_each_ok {f : α → Traced σ β} {xs : List α} {bs : List β} {s : σ}
    (h : (each f xs s).result = .ok bs) :
    List.Forall₂ (fun a b => ∃ s, (f a s).result = .ok b) xs bs := by
  induction xs generalizing bs s with
  | nil =>
    rw [← Except.ok.inj h]
    exact .nil
  | cons x rest ih =>
    obtain ⟨b, hb, h⟩ := exists_of_bind_ok h
    obtain ⟨bs', hbs, h⟩ := exists_of_bind_ok h
    rw [← Except.ok.inj h]
    exact .cons ⟨s, hb⟩ (ih hbs)

/-- A computation for each item in turn fails at one of them, behind all that did not. -/
theorem exists_of_each_error {f : α → Traced σ β} {xs : List α} {s : σ} {e : Failure}
    (h : (each f xs s).result = .error e) :
    ∃ front a back, xs = front ++ a :: back ∧
      (∀ x ∈ front, ∃ s b, (f x s).result = .ok b) ∧ ∃ s, (f a s).result = .error e := by
  induction xs generalizing s with
  | nil => cases h
  | cons x rest ih =>
    rcases of_bind_error h with hx | ⟨b, hx, h⟩
    · exact ⟨[], x, rest, rfl, fun _ hy => absurd hy List.not_mem_nil, s, hx⟩
    · rcases of_bind_error h with hrest | ⟨bs, -, h⟩
      · obtain ⟨front, a, back, rfl, hfront, ha⟩ := ih hrest
        refine ⟨x :: front, a, back, rfl, fun y hy => ?_, ha⟩
        rcases List.mem_cons.mp hy with rfl | hy
        · exact ⟨s, b, hx⟩
        · exact hfront y hy
      · cases h

theorem onFailure_of_ok {x : Traced σ α} {s : σ} {a : α} (h : (x s).result = .ok a)
    (handler : Failure → Traced σ Unit) : x.onFailure handler s = x s := by
  unfold onFailure
  simp only [h]

theorem onFailure_of_error {x : Traced σ α} {s : σ} {e : Failure} (h : (x s).result = .error e)
    (handler : Failure → Traced σ Unit) :
    x.onFailure handler s = x.andFinally (handler e) s := by
  unfold onFailure andFinally
  simp only [h]

/-- A release adds no call. -/
theorem calls_andFinally_release (x : Traced σ α) {e : Event} (he : e.isRelease) (g : σ → σ)
    (s : σ) : Run.calls (x.andFinally (.release e g) s).acts = Run.calls (x s).acts := by
  calc Run.calls (x.andFinally (.release e g) s).acts
      = Run.calls (x s).acts ++ Run.calls [.event e] := Run.calls_append _ _
    _ = Run.calls (x s).acts := by simp [Run.calls, Act.event?, he]

/-- A value behind a failure handler comes from the computation. -/
theorem result_of_onFailure {x : Traced σ α} {s : σ} {handler : Failure → Traced σ Unit} {a : α}
    (h : (x.onFailure handler s).result = .ok a) : (x s).result = .ok a := by
  cases hr : (x s).result with
  | ok b => rwa [onFailure_of_ok hr, hr] at h
  | error e =>
    rw [onFailure_of_error hr] at h
    exact hr.symm.trans h

/-- A computation does what its first part does, and maybe more. -/
theorem exists_acts_bind (x : Traced σ α) (f : α → Traced σ β) (s : σ) :
    ∃ more, ((x >>= f) s).acts = (x s).acts ++ more := by
  cases h : (x s).result with
  | error e => exact ⟨[], by rw [bind_of_error h, List.append_nil]⟩
  | ok a => exact ⟨_, by rw [bind_of_ok h]⟩

/-! ## What a computation does at all -/

/-- All acts of a computation have a property, from wherever it starts. -/
def Always (p : Act → Prop) (x : Traced σ α) : Prop :=
  ∀ s, ∀ a ∈ (x s).acts, p a

section Always

variable {p : Act → Prop}

theorem Always.pure (a : α) : Always p (pure a : Traced σ α) :=
  fun _ _ h => absurd h List.not_mem_nil

theorem Always.ofExcept (r : Except Failure α) : Always p (ofExcept r : Traced σ α) := by
  cases r <;> exact fun _ _ h => absurd h List.not_mem_nil

theorem Always.note {e : Event} (h : p (.event e)) : Always p (note e : Traced σ Unit) :=
  fun _ _ ha => List.mem_singleton.mp ha ▸ h

theorem Always.call {e : Event} (h : p (.event e)) (answer : σ → Except Failure α × σ) :
    Always p (call e answer) :=
  fun _ _ ha => List.mem_singleton.mp ha ▸ h

theorem Always.bind {x : Traced σ α} {f : α → Traced σ β} (hx : x.Always p)
    (hf : ∀ a, (f a).Always p) : (x >>= f).Always p := by
  intro s a ha
  cases h : (x s).result with
  | error e =>
    rw [bind_of_error h] at ha
    exact hx s a ha
  | ok b =>
    rw [bind_of_ok h] at ha
    rcases List.mem_append.mp ha with ha | ha
    · exact hx s a ha
    · exact hf b _ a ha

theorem Always.andFinally {x : Traced σ α} {last : Traced σ Unit} (hx : x.Always p)
    (hl : last.Always p) : (x.andFinally last).Always p := by
  intro s a ha
  rcases List.mem_append.mp ha with ha | ha
  · exact hx s a ha
  · exact hl _ a ha

theorem Always.onFailure {x : Traced σ α} {handler : Failure → Traced σ Unit} (hx : x.Always p)
    (hh : ∀ e, (handler e).Always p) : (x.onFailure handler).Always p := by
  intro s a ha
  cases hr : (x s).result with
  | ok b =>
    rw [onFailure_of_ok hr] at ha
    exact hx s a ha
  | error e =>
    rw [onFailure_of_error hr] at ha
    exact hx.andFinally (hh e) s a ha

theorem Always.fold {step : β → α → Traced σ β} (h : ∀ b a, (step b a).Always p) (b : β)
    (xs : List α) : (fold step b xs).Always p := by
  induction xs generalizing b with
  | nil => exact .pure b
  | cons x rest ih => exact (h b x).bind ih

end Always

/-! ## What a computation yields -/

/-- From `s`, a computation shows some outward events, ends with `r` and leaves `t`. -/
structure Yields (x : Traced σ α) (s : σ) (seen : List Event) (r : Except Failure α) (t : σ) :
    Prop where
  outward : outward (x s).acts = seen
  result : (x s).result = r
  state : (x s).state = t

variable {x : Traced σ α} {s t u : σ} {seen seen' : List Event}

theorem Yields.pure (a : α) (s : σ) : (pure a : Traced σ α).Yields s [] (.ok a) s :=
  ⟨rfl, rfl, rfl⟩

theorem Yields.note (e : Event) (s : σ) :
    (note e : Traced σ Unit).Yields s ([e].filter Event.isOutward) (.ok ()) s :=
  ⟨rfl, rfl, rfl⟩

theorem Yields.call (e : Event) (answer : σ → Except Failure α × σ) (s : σ) :
    (call e answer).Yields s ([e].filter Event.isOutward) (answer s).1 (answer s).2 :=
  ⟨rfl, rfl, rfl⟩

theorem Yields.bind {a : α} {f : α → Traced σ β} {r : Except Failure β}
    (hx : x.Yields s seen (.ok a) t) (hf : (f a).Yields t seen' r u) :
    (x >>= f).Yields s (seen ++ seen') r u := by
  rw [← hx.state] at hf
  constructor
  · rw [bind_of_ok hx.result, outward_append, hx.outward, hf.outward]
  · rw [bind_of_ok hx.result, hf.result]
  · rw [bind_of_ok hx.result, hf.state]

/-- What shows nothing adds nothing. -/
theorem Yields.bind_quiet {a : α} {f : α → Traced σ β} {r : Except Failure β}
    (hx : x.Yields s seen (.ok a) t) (hf : (f a).Yields t [] r u) :
    (x >>= f).Yields s seen r u := by
  have hb := hx.bind hf
  rwa [List.append_nil] at hb

theorem Yields.bind_error {e : Failure} (f : α → Traced σ β)
    (hx : x.Yields s seen (.error e) t) : (x >>= f).Yields s seen (.error e) t := by
  constructor
  · rw [bind_of_error hx.result, hx.outward]
  · rw [bind_of_error hx.result]
  · rw [bind_of_error hx.result, hx.state]

theorem Yields.andFinally {last : Traced σ Unit} {r : Except Failure α} {r' : Except Failure Unit}
    (hx : x.Yields s seen r t) (hl : last.Yields t seen' r' u) :
    (x.andFinally last).Yields s (seen ++ seen') r u := by
  rw [← hx.state] at hl
  exact ⟨by rw [Traced.andFinally, outward_append, hx.outward, hl.outward], hx.result, hl.state⟩

theorem Yields.onFailure_ok {a : α} (handler : Failure → Traced σ Unit)
    (hx : x.Yields s seen (.ok a) t) : (x.onFailure handler).Yields s seen (.ok a) t := by
  have h := onFailure_of_ok hx.result handler
  exact ⟨h ▸ hx.outward, h ▸ hx.result, h ▸ hx.state⟩

theorem Yields.onFailure_error {e : Failure} {r : Except Failure Unit}
    (handler : Failure → Traced σ Unit) (hx : x.Yields s seen (.error e) t)
    (hh : (handler e).Yields t seen' r u) :
    (x.onFailure handler).Yields s (seen ++ seen') (.error e) u := by
  have h := onFailure_of_error hx.result handler
  have hl := hx.andFinally hh
  exact ⟨h ▸ hl.outward, h ▸ hl.result, h ▸ hl.state⟩

theorem Yields.onFailure_quiet {e : Failure} {r : Except Failure Unit}
    (handler : Failure → Traced σ Unit) (hx : x.Yields s seen (.error e) t)
    (hh : (handler e).Yields t [] r u) : (x.onFailure handler).Yields s seen (.error e) u := by
  have hf := hx.onFailure_error handler hh
  rwa [List.append_nil] at hf

end Traced

end IssueNotice
