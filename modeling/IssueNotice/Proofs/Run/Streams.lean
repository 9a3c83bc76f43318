import IssueNotice.Proofs.Traced

/-!
# Reading a stream is folding over what it gives

A stream is read to its end, to its first failing read or to the first failing step. `readable` are
the issues in front of the end or of the failing read, and `breakage` is the failure of that read.
`readAll_outcome` takes the reading apart: the steps are those of a fold over the readable issues,
the stream is released behind them, and the breakage counts only if no step failed.
`foldIssues_outcome` puts the call that hands the stream out in front.
-/

namespace IssueNotice.Run

variable {σ α β : Type}

/-- The issues that a stream gives before it ends or fails. -/
def readable : List Read → List Issue
  | .ok i :: rest => i :: readable rest
  | _ => []

/-- The failure of the first failing read of a stream. -/
def breakage : List Read → Option Failure
  | [] => none
  | .error e :: _ => some e
  | .ok _ :: rest => breakage rest

theorem readable_map_ok (issues : List Issue) : readable (issues.map .ok) = issues := by
  induction issues with
  | nil => rfl
  | cons i rest ih => rw [List.map_cons, readable, ih]

theorem breakage_map_ok (issues : List Issue) : breakage (issues.map .ok) = none := by
  induction issues with
  | nil => rfl
  | cons i rest ih => rw [List.map_cons, breakage, ih]

/-- How the reading of a stream ends, given how the steps ended. -/
def endOfReading (stream : List Read) (r : Except Failure β) : Except Failure β :=
  match breakage stream with
  | none => r
  | some e => r.bind fun _ => .error e

theorem endOfReading_error (stream : List Read) (e : Failure) :
    endOfReading stream (.error e : Except Failure β) = .error e := by
  unfold endOfReading
  split <;> rfl

/-- A stream without a failing read ends as the steps did. -/
theorem endOfReading_map_ok (issues : List Issue) (r : Except Failure β) :
    endOfReading (issues.map .ok) r = r := by
  unfold endOfReading
  rw [breakage_map_ok]

/-- A reading ends well iff its steps did and no read failed. -/
theorem endOfReading_eq_ok {stream : List Read} {r : Except Failure β} {b : β} :
    endOfReading stream r = .ok b ↔ breakage stream = none ∧ r = .ok b := by
  unfold endOfReading
  cases hb : breakage stream with
  | none => simp
  | some e => cases r <;> simp [Except.bind]

variable (c : Collaborators σ)

/-- **Reading a stream is folding over its readable issues**, and releasing it then. -/
theorem readAll_outcome (step : β → Issue → Traced σ β) (reads : Nat) (b : β)
    (stream : List Read) (s : σ) :
    let o := Traced.fold step b (readable stream) s
    let p := c.readAll step reads b stream s
    calls p.acts = calls o.acts ∧ p.result = endOfReading stream o.result ∧
      p.state = c.closeStream o.state := by
  induction stream generalizing reads b s with
  | nil => exact ⟨rfl, rfl, rfl⟩
  | cons r rest ih =>
    cases r with
    | error e => exact ⟨rfl, rfl, rfl⟩
    | ok i =>
      -- the read itself is no call; the step is released behind it only if it fails
      let x := (step b i).onFailure fun _ => c.endStream (reads + 1)
      let q := (x >>= fun b => c.readAll step (reads + 1) b rest) s
      have hread : c.readAll step reads b (.ok i :: rest) s =
        ⟨.read :: q.acts, q.result, q.state⟩ := rfl
      have hcalls : calls (.read :: q.acts) = calls q.acts := rfl
      simp only [hread, hcalls, readable, Traced.fold]
      cases hr : (step b i s).result with
      | error e =>
        have hx : x s = (step b i).andFinally (c.endStream (reads + 1)) s :=
          Traced.onFailure_of_error hr _
        have hq : q = ⟨(x s).acts, .error e, (x s).state⟩ :=
          Traced.bind_of_error (hx ▸ hr) _
        rw [hq, hx, Traced.bind_of_error hr, endOfReading_error]
        exact ⟨Traced.calls_andFinally_release _ rfl _ _, rfl, rfl⟩
      | ok b' =>
        have hx : x s = step b i s := Traced.onFailure_of_ok hr _
        let tail := c.readAll step (reads + 1) b' rest (x s).state
        have hq : q = ⟨(x s).acts ++ tail.acts, tail.result, tail.state⟩ :=
          Traced.bind_of_ok (hx ▸ hr) _
        obtain ⟨htail, hresult, hstate⟩ := ih (reads + 1) b' (x s).state
        rw [hq, Traced.bind_of_ok hr]
        simp only [calls_append]
        rw [htail, hx]
        exact ⟨rfl, hx ▸ hresult, hx ▸ hstate⟩

section FoldIssues

variable {c} (step : β → Issue → Traced σ β) (b : β) {s : σ}

/-- Without a stream nothing is read. -/
theorem foldIssues_refused {e : Failure} (h : (c.openStream s).1 = .error e) :
    c.foldIssues step b s = ⟨[.event .openStream], .error e, (c.openStream s).2⟩ :=
  Traced.bind_of_error h _

/-- Carrying a value through all issues is folding over those that the stream gives. -/
theorem foldIssues_outcome {stream : List Read} (h : (c.openStream s).1 = .ok stream) :
    let o := Traced.fold step b (readable stream) (c.openStream s).2
    let p := c.foldIssues step b s
    calls p.acts = .openStream :: calls o.acts ∧ p.result = endOfReading stream o.result ∧
      p.state = c.closeStream o.state := by
  have hp : c.foldIssues step b s = ⟨.event .openStream ::
      (c.readAll step 0 b stream (c.openStream s).2).acts, _, _⟩ := Traced.bind_of_ok h _
  obtain ⟨hcalls, hresult, hstate⟩ := readAll_outcome c step 0 b stream (c.openStream s).2
  rw [hp]
  exact ⟨congrArg (Event.openStream :: ·) hcalls, hresult, hstate⟩

/-- A value carried through all issues comes from folding over some. -/
theorem exists_fold_of_foldIssues_ok {b' : β} (h : (c.foldIssues step b s).result = .ok b') :
    ∃ issues t, (Traced.fold step b issues t).result = .ok b' := by
  cases ho : (c.openStream s).1 with
  | error e =>
    rw [foldIssues_refused step b ho] at h
    cases h
  | ok stream =>
    obtain ⟨-, hresult, -⟩ := foldIssues_outcome step b ho
    exact ⟨_, _, (endOfReading_eq_ok.mp (hresult.symm.trans h)).2⟩

/-- Carrying a value through the issues of a stream without a failing read. -/
theorem foldIssues_answered {issues : List Issue} (h : (c.openStream s).1 = .ok (issues.map .ok)) :
    let o := Traced.fold step b issues (c.openStream s).2
    let p := c.foldIssues step b s
    calls p.acts = .openStream :: calls o.acts ∧ p.result = o.result ∧
      p.state = c.closeStream o.state := by
  obtain ⟨hcalls, hresult, hstate⟩ := foldIssues_outcome step b h
  rw [readable_map_ok] at hcalls hresult hstate
  exact ⟨hcalls, hresult.trans (endOfReading_map_ok issues _), hstate⟩

end FoldIssues

end IssueNotice.Run
