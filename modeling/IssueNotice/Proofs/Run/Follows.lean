import IssueNotice.Proofs.Run.Cut

/-!
# Computations that follow others up to a fault

`Follows f past o p` compares what a computation does without a fault, `o`, with what it does with
the fault, `p`, both behind the acts `past`. Where the fault does not hit, they are the same. Where
it does, `p` makes the calls of `o` up to the cut and ends with the failure.

There is one rule for each way in which computations are put together. Releases are no calls, so
that a computation that gives back what it holds still follows. Reads fail in the stream itself:
`spoiled` is what is left of a stream with the failing read, and `readAll_follows` the induction
over it.
-/

namespace IssueNotice.Run

variable {σ α β : Type}

/-- What a computation does with a fault, compared with what it does without. -/
inductive Follows (f : Fault) (past : List Act) (o : Outcome σ α)
    (p : Outcome (σ × CallCounts) α) : Prop where
  /-- The fault does not hit: nothing changes. -/
  | same (hcut : cut f past o.acts = none)
      (hp : p = ⟨o.acts, o.result, o.state, counts (past ++ o.acts)⟩)
  /-- The fault hits: no call is made behind the failing one. -/
  | failed (front : List Act) (hcut : cut f past o.acts = some front)
      (hcalls : calls p.acts = calls front) (hresult : p.result = .error f.failure)

/-- A computation that follows another wherever that starts. -/
def Mimics (f : Fault) (x : Traced σ α) (y : Traced (σ × CallCounts) α) : Prop :=
  ∀ past s, Follows f past (x s) (y (s, counts past))

variable {f : Fault} {past : List Act} {s : σ}

/-- What collaborators with faults count when an event is carried out. -/
def CallCounts.after (n : CallCounts) : Event → CallCounts
  | .openStream => { n with openStream := n.openStream + 1 }
  | .openSession => { n with openSession := n.openSession + 1 }
  | .selectUsers _ => { n with selectUsers := n.selectUsers + 1 }
  | .findRule _ => { n with findRule := n.findRule + 1 }
  | .sendBulk _ => { n with sendBulk := n.sendBulk + 1 }
  | .sendSingle _ => { n with sendSingle := n.sendSingle + 1 }
  | _ => n

theorem counts_snoc (past : List Act) (e : Event) :
    counts (past ++ [.event e]) = (counts past).after e := by
  unfold counts
  rw [tally_snoc]
  cases e <;> rfl

theorem counts_snoc_of_none {a : Act} (h : (tally past).kind a = none) :
    counts (past ++ [a]) = counts past := by
  unfold counts
  rw [tally_snoc_of_none h]

/-! ## Single acts -/

theorem Follows.nil (r : Except Failure α) :
    Follows f past ⟨[], r, s⟩ ⟨[], r, s, counts past⟩ :=
  .same rfl (by simp only [List.append_nil])

theorem Follows.quiet {a : Act} (h : (tally past).kind a = none) (r : Except Failure α) :
    Follows f past ⟨[a], r, s⟩ ⟨[a], r, s, counts past⟩ :=
  .same (cut_of_none h) (by simp only [counts_snoc_of_none h])

theorem Mimics.pure (a : α) : Mimics f (pure a : Traced σ α) (pure a) :=
  fun _ _ => .nil (.ok a)

theorem Mimics.fail (e : Failure) : Mimics f (Traced.fail e : Traced σ α) (Traced.fail e) :=
  fun _ _ => .nil (.error e)

theorem Mimics.ofExcept (r : Except Failure α) :
    Mimics f (Traced.ofExcept r : Traced σ α) (Traced.ofExcept r) := by
  cases r with
  | ok a => exact .pure a
  | error e => exact .fail e

theorem Mimics.note {e : Event} (h : e.fallible = none) :
    Mimics f (Traced.note e : Traced σ Unit) (Traced.note e) :=
  fun _ _ => .quiet (a := .event e) h (.ok ())

/-- A call that can be made to fail, and fails if its number comes up. -/
theorem Follows.call {e : Event} {k : Fallible} (he : e.fallible = some k) {answer : Answer σ α}
    {answer' : Answer (σ × CallCounts) α} {number : Nat} (hnumber : number = tally past k + 1)
    {failed : CallCounts}
    (h : answer' (s, counts past) = unlessPlanned (planned [f] k number) answer failed
      (counts (past ++ [.event e])) (s, counts past)) :
    Follows f past (Traced.call e answer s) (Traced.call e answer' (s, counts past)) := by
  subst hnumber
  by_cases hf : f.call = k ∧ f.number = tally past k + 1
  · have hp : planned [f] k (tally past k + 1) = some f.failure := by
      simp [planned, hf]
    rw [hp] at h
    refine .failed [.event e] ?_ rfl (congrArg Prod.fst h)
    rw [show (Traced.call e answer s).acts = [.event e] from rfl, cut, if_pos]
    exact ⟨hf.1 ▸ he, hf.1 ▸ hf.2.symm⟩
  · have hp : planned [f] k (tally past k + 1) = none := by
      simpa [planned] using hf
    rw [hp] at h
    refine .same ?_ ?_
    · rw [show (Traced.call e answer s).acts = [.event e] from rfl, cut, if_neg]
      · rfl
      · rintro ⟨hk, hn⟩
        obtain rfl : k = f.call := Option.some.inj (he.symm.trans hk)
        exact hf ⟨rfl, hn.symm⟩
    · unfold Traced.call
      rw [h]
      rfl

/-! ## Computations put together -/

theorem Follows.bind {x : Traced σ α} {x' : Traced (σ × CallCounts) α} {g : α → Traced σ β}
    {g' : α → Traced (σ × CallCounts) β} (hx : Follows f past (x s) (x' (s, counts past)))
    (hg : ∀ a, (x s).result = .ok a → Follows f (past ++ (x s).acts) (g a (x s).state)
      (g' a ((x s).state, counts (past ++ (x s).acts)))) :
    Follows f past ((x >>= g) s) ((x' >>= g') (s, counts past)) := by
  rcases hx with ⟨hcut, hp⟩ | ⟨front, hcut, hcalls, hresult⟩
  · cases hr : (x s).result with
    | error e =>
      have hr' : (x' (s, counts past)).result = .error e := by rw [hp, hr]
      rw [Traced.bind_of_error hr, Traced.bind_of_error hr', hp]
      exact .same hcut rfl
    | ok a =>
      have hr' : (x' (s, counts past)).result = .ok a := by rw [hp, hr]
      rw [Traced.bind_of_ok hr, Traced.bind_of_ok hr', hp]
      rcases hg a hr with ⟨hcut', hp'⟩ | ⟨front, hcut', hcalls, hresult⟩
      · refine .same ?_ ?_
        · rw [cut_append_of_none hcut, hcut']
          rfl
        · simp only [hp', List.append_assoc]
      · refine .failed ((x s).acts ++ front) ?_ ?_ hresult
        · rw [cut_append_of_none hcut, hcut']
          rfl
        · rw [calls_append, calls_append, hcalls]
  · obtain ⟨more, hmore⟩ := Traced.exists_acts_bind x g s
    rw [Traced.bind_of_error hresult]
    refine .failed front ?_ hcalls rfl
    rw [hmore]
    exact cut_append_of_some hcut more

theorem Mimics.bind {x : Traced σ α} {x' : Traced (σ × CallCounts) α} {g : α → Traced σ β}
    {g' : α → Traced (σ × CallCounts) β} (hx : Mimics f x x') (hg : ∀ a, Mimics f (g a) (g' a)) :
    Mimics f (x >>= g) (x' >>= g') :=
  fun past s => (hx past s).bind fun a _ => hg a _ _

/-! ## Releases -/

theorem fallible_of_isRelease {e : Event} (h : e.isRelease) : e.fallible = none := by
  cases e <;> first | rfl | exact absurd h Bool.false_ne_true

theorem Mimics.release {e : Event} (he : e.isRelease) (g : σ → σ) :
    Mimics f (Traced.release e g) (Traced.release e fun s => (g s.1, s.2)) :=
  fun _ s => Follows.quiet (a := .event e) (s := g s) (fallible_of_isRelease he) (.ok ())

theorem Follows.andFinally {x : Traced σ α} {x' : Traced (σ × CallCounts) α}
    (hx : Follows f past (x s) (x' (s, counts past))) {e : Event} (he : e.isRelease) (g : σ → σ) :
    Follows f past (x.andFinally (.release e g) s)
      (x'.andFinally (.release e fun s => (g s.1, s.2)) (s, counts past)) := by
  have hquiet : ∀ acts, (tally acts).kind (.event e) = none := fun _ => fallible_of_isRelease he
  rcases hx with ⟨hcut, hp⟩ | ⟨front, hcut, hcalls, hresult⟩
  · refine .same ?_ ?_
    · refine (cut_append_of_none hcut [.event e]).trans ?_
      rw [cut_of_none (hquiet _)]
      rfl
    · unfold Traced.andFinally Traced.release
      simp only [hp, ← List.append_assoc, counts_snoc_of_none (hquiet _)]
  · refine .failed front (cut_append_of_some hcut _) ?_ hresult
    rw [Traced.calls_andFinally_release x' he, hcalls]

/-- A failing computation that gives something back still follows. -/
theorem Follows.onFailure {x : Traced σ α} {x' : Traced (σ × CallCounts) α}
    (hx : Follows f past (x s) (x' (s, counts past))) {e : Event} (he : e.isRelease) (g : σ → σ) :
    Follows f past (x.onFailure (fun _ => .release e g) s)
      (x'.onFailure (fun _ => .release e fun s => (g s.1, s.2)) (s, counts past)) := by
  have hlast := hx.andFinally he g
  rcases hx with ⟨hcut, hp⟩ | ⟨front, hcut, hcalls, hresult⟩
  · cases hr : (x s).result with
    | ok a =>
      rw [Traced.onFailure_of_ok hr, Traced.onFailure_of_ok (by rw [hp, hr])]
      exact .same hcut hp
    | error e =>
      rw [Traced.onFailure_of_error hr, Traced.onFailure_of_error (by rw [hp, hr])]
      exact hlast
  · rw [Traced.onFailure_of_error hresult]
    cases hr : (x s).result with
    | ok a =>
      rw [Traced.onFailure_of_ok hr]
      refine .failed front hcut ?_ hresult
      rw [Traced.calls_andFinally_release x' he, hcalls]
    | error e =>
      rw [Traced.onFailure_of_error hr]
      exact hlast

/-! ## Streams -/

/-- What is left of a stream, with a failure in place of the read that a fault names. -/
def spoiled (f : Fault) (past : List Act) (reads : List Read) : List Read :=
  if (tally past).kind .read = some f.call then spoil reads (f.number - tally past f.call) f.failure
  else reads

theorem spoil_one (reads : List Read) (e : Failure) : spoil reads 1 e = [.error e] := by
  unfold spoil
  rw [if_pos ⟨Nat.zero_lt_one, Nat.le_add_left 1 _⟩]
  rfl

theorem spoil_nil {number : Nat} (h : number ≠ 1) (e : Failure) : spoil [] number e = [] := by
  unfold spoil
  rw [if_neg]
  simp only [List.length_nil]
  omega

theorem spoil_cons {number : Nat} (h : number ≠ 1) (r : Read) (rest : List Read) (e : Failure) :
    spoil (r :: rest) number e = r :: spoil rest (number - 1) e := by
  unfold spoil
  by_cases hn : 0 < number ∧ number ≤ (r :: rest).length + 1
  · obtain ⟨n, rfl⟩ : ∃ n, number = n + 2 := ⟨number - 2, by omega⟩
    rw [if_pos hn, if_pos (by simp only [List.length_cons] at hn; omega)]
    rfl
  · rw [if_neg hn, if_neg (by simp only [List.length_cons] at hn; omega)]

/-- The read that the fault hits fails. -/
theorem spoiled_of_hits (h : f.Hits past .read) (reads : List Read) :
    spoiled f past reads = [.error f.failure] := by
  obtain ⟨hk, hn⟩ := h
  rw [spoiled, if_pos hk, ← hn, Nat.add_sub_cancel_left, spoil_one]

/-- The end is found as before, unless the fault hits. -/
theorem spoiled_nil (h : ¬ f.Hits past .read) : spoiled f past [] = [] := by
  unfold spoiled
  split
  · next hk => exact spoil_nil (fun hn => h ⟨hk, by omega⟩) _
  · rfl

/-- A read gives what it gave before, unless the fault hits. -/
theorem spoiled_cons (h : ¬ f.Hits past .read) (r : Read) (rest : List Read) :
    spoiled f past (r :: rest) = r :: spoiled f (past ++ [.read]) rest := by
  have hkind : (tally (past ++ [.read])).kind .read = (tally past).kind .read := by
    simp only [Tally.kind, tally_snoc, Tally.add_of_ne (Tally.kind_read_ne _)]
  unfold spoiled
  rw [hkind]
  by_cases hk : (tally past).kind .read = some f.call
  · rw [if_pos hk, if_pos hk, spoil_cons (fun hn => h ⟨hk, by omega⟩), tally_snoc,
      Tally.add_of_eq hk, Nat.sub_add_eq]
  · rw [if_neg hk, if_neg hk]

/-- Whether an act neither reads from a stream nor asks for one. -/
def leavesStreams (a : Act) : Prop := a ≠ .read ∧ a ≠ .event .openStream

/-- What is left of a stream depends on what was read, and on nothing else. -/
theorem spoiled_append {as : List Act} (h : ∀ a ∈ as, leavesStreams a) (reads : List Read) :
    spoiled f (past ++ as) reads = spoiled f past reads := by
  induction as generalizing past with
  | nil => rw [List.append_nil]
  | cons a rest ih =>
    obtain ⟨e, rfl, he⟩ : ∃ e, a = .event e ∧ e ≠ .openStream := by
      obtain ⟨hr, ho⟩ := h a List.mem_cons_self
      cases a with
      | event e => exact ⟨e, rfl, fun h => ho (h ▸ rfl)⟩
      | read => exact absurd rfl hr
    have hopen : e.fallible ≠ some .openStream := by
      cases e <;> simp_all [Event.fallible]
    have hkind : (tally (past ++ [.event e])).kind .read = (tally past).kind .read := by
      simp only [Tally.kind, tally_snoc, Tally.add_of_ne (a := .event e) hopen]
    rw [List.append_cons, ih fun a ha => h a (List.mem_cons_of_mem _ ha)]
    unfold spoiled
    rw [hkind]
    by_cases hk : (tally past).kind .read = some f.call
    · have hcall : e.fallible ≠ some f.call := by
        rcases Tally.kind_read hk with hc | hc
        · exact hc ▸ (fallible_ne_read e).1
        · exact hc ▸ (fallible_ne_read e).2
      rw [tally_snoc, Tally.add_of_ne (a := .event e) hcall]
    · rw [if_neg hk, if_neg hk]

theorem counts_snoc_read : counts (past ++ [.read]) = counts past := by
  have hk : ∀ k, k ≠ .firstRead → k ≠ .secondRead →
      tally (past ++ [.read]) k = tally past k := by
    intro k h₁ h₂
    rw [tally_snoc, Tally.add_of_ne]
    intro h
    rcases Tally.kind_read h with h | h
    · exact h₁ h
    · exact h₂ h
  simp [counts, hk]

theorem Follows.read (h : ¬ f.Hits past .read) :
    Follows f past (Traced.read s) (Traced.read (s, counts past)) := by
  refine .same ?_ ?_
  · rw [show (Traced.read s).acts = [.read] from rfl, cut, if_neg h]
    rfl
  · rw [show (Traced.read s).acts = [.read] from rfl, counts_snoc_read]
    rfl

variable (c : Collaborators σ)

theorem endStream_mimics (reads : Nat) :
    Mimics f (c.endStream reads) ((withFaults [f] c).endStream reads) :=
  .release (e := .closeStream reads) rfl c.closeStream

/-- Reading a stream begins with a read. -/
theorem exists_acts_readAll (step : β → Issue → Traced σ β) (reads : Nat) (b : β)
    (stream : List Read) (s : σ) :
    ∃ more, (c.readAll step reads b stream s).acts = .read :: more := by
  rcases stream with _ | ⟨_ | i, rest⟩
  · exact Traced.exists_acts_bind Traced.read _ s
  · exact Traced.exists_acts_bind Traced.read _ s
  · exact Traced.exists_acts_bind Traced.read _ s

/-- The failing read ends the reading of a stream. -/
theorem readAll_follows_of_hits (h : f.Hits past .read) (step : β → Issue → Traced σ β)
    (step' : β → Issue → Traced (σ × CallCounts) β) (reads : Nat) (b : β) (stream : List Read) :
    Follows f past (c.readAll step reads b stream s)
      ((withFaults [f] c).readAll step' reads b (spoiled f past stream) (s, counts past)) := by
  obtain ⟨more, hmore⟩ := exists_acts_readAll c step reads b stream s
  rw [spoiled_of_hits h]
  refine .failed [.read] ?_ rfl rfl
  rw [hmore, cut, if_pos h]

/-- **Reading the spoiled stream follows reading the stream.** -/
theorem readAll_follows {step : β → Issue → Traced σ β}
    {step' : β → Issue → Traced (σ × CallCounts) β} (hstep : ∀ b i, Mimics f (step b i) (step' b i))
    (hstill : ∀ b i, (step b i).Always leavesStreams) (reads : Nat) (b : β) (stream : List Read)
    (past : List Act) (s : σ) :
    Follows f past (c.readAll step reads b stream s)
      ((withFaults [f] c).readAll step' reads b (spoiled f past stream) (s, counts past)) := by
  induction stream generalizing reads b past s with
  | nil =>
    by_cases h : f.Hits past .read
    · exact readAll_follows_of_hits c h step step' reads b []
    · rw [spoiled_nil h]
      exact (Follows.read h).bind fun _ _ => ((endStream_mimics c _).bind fun _ => .pure b) _ _
  | cons r rest ih =>
    by_cases h : f.Hits past .read
    · exact readAll_follows_of_hits c h step step' reads b (r :: rest)
    · rw [spoiled_cons h]
      cases r with
      | error e =>
        exact (Follows.read h).bind fun _ _ => ((endStream_mimics c _).bind fun _ => .fail e) _ _
      | ok i =>
        refine (Follows.read h).bind fun _ _ => ?_
        refine ((hstep b i _ _).onFailure (e := .closeStream (reads + 1)) rfl c.closeStream).bind ?_
        intro b' hb
        have hacts : ∀ a ∈ ((step b i).onFailure (fun _ => c.endStream (reads + 1))
            (Traced.read s).state).acts, leavesStreams a := by
          rw [Traced.onFailure_of_ok (Traced.result_of_onFailure hb)]
          exact hstill b i _
        rw [← spoiled_append hacts]
        exact ih (reads + 1) b' _ _

theorem spoilAll_singleton (k : Fallible) (reads : List Read) :
    spoilAll [f] k reads = if f.call = k then spoil reads f.number f.failure else reads := by
  unfold spoilAll
  by_cases h : f.call = k <;> simp [h]

/-- Before the first read of a stream nothing is spoiled but by the number of the fault. -/
theorem spoiled_of_unread {k : Fallible} (hk : (tally past).kind .read = some k)
    (h : tally past k = 0) (reads : List Read) :
    spoiled f past reads = spoilAll [f] k reads := by
  rw [spoilAll_singleton, spoiled, hk]
  by_cases hf : f.call = k
  · rw [if_pos hf, if_pos (congrArg some hf.symm), hf, h, Nat.sub_zero]
  · rw [if_neg hf, if_neg fun he => hf (Option.some.inj he).symm]

/-- The reads of a stream that is handed out. -/
theorem spoilStream_eq (reads : List Read) :
    spoilStream [f] (tally past .openStream + 1) reads =
      spoiled f (past ++ [.event .openStream]) reads := by
  obtain ⟨hfirst, hsecond⟩ := tally_reads past
  have hkeep : ∀ k, k ≠ .openStream → tally (past ++ [.event .openStream]) k = tally past k := by
    intro k hk
    rw [tally_snoc, Tally.add_of_ne]
    exact fun h => hk (Option.some.inj h).symm
  have hopen : tally (past ++ [.event .openStream]) .openStream = tally past .openStream + 1 := by
    rw [tally_snoc, Tally.add_of_eq rfl]
  have hkind : (tally (past ++ [.event .openStream])).kind .read =
      if tally past .openStream + 1 = 1 then some .firstRead
      else if tally past .openStream + 1 = 2 then some .secondRead else none := by
    rw [← hopen]
    rfl
  unfold spoilStream
  by_cases h₁ : tally past .openStream + 1 = 1
  · rw [if_pos h₁, spoiled_of_unread (by rw [hkind, if_pos h₁])]
    rw [hkeep _ (by decide), hfirst (by omega)]
  · rw [if_neg h₁] at hkind ⊢
    by_cases h₂ : tally past .openStream + 1 = 2
    · rw [if_pos h₂, spoiled_of_unread (by rw [hkind, if_pos h₂])]
      rw [hkeep _ (by decide), hsecond (by omega)]
    · rw [if_neg h₂, spoiled, if_neg (by rw [hkind, if_neg h₂]; simp)]

/-- **Carrying a value through the issues follows**, if each step does. -/
theorem foldIssues_mimics {step : β → Issue → Traced σ β}
    {step' : β → Issue → Traced (σ × CallCounts) β} (hstep : ∀ b i, Mimics f (step b i) (step' b i))
    (hstill : ∀ b i, (step b i).Always leavesStreams) (b : β) :
    Mimics f (c.foldIssues step b) ((withFaults [f] c).foldIssues step' b) := by
  intro past s
  -- the stream is handed out first and spoiled afterwards
  let answer : Answer (σ × CallCounts) (List Read) := unlessPlanned
    (planned [f] .openStream (tally past .openStream + 1)) c.openStream (counts past)
    { counts past with openStream := tally past .openStream + 1 }
  have hanswer : (withFaults [f] c).openStream (s, counts past) =
      ((answer (s, counts past)).1.map (spoilStream [f] (tally past .openStream + 1)),
        (answer (s, counts past)).2) := rfl
  unfold Collaborators.foldIssues
  rw [Traced.call_bind_map hanswer]
  have hcall : Follows f past (Traced.call .openStream c.openStream s)
      (Traced.call .openStream answer (s, counts past)) :=
    .call rfl rfl (by rw [counts_snoc]; rfl)
  refine hcall.bind fun stream _ => ?_
  rw [spoilStream_eq]
  exact readAll_follows c hstep hstill 0 b stream _ _

end IssueNotice.Run
