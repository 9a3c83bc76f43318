import IssueNotice.Proofs.Run.Accounts
import IssueNotice.Run.Fault

/-!
# Collaborators that serve a store

`Collaborators.Serves` says that collaborators answer what the rows of a store say, where they
answer; they may fail at any call. The collaborators of a store serve it (`Store.serves`), and they
still do when they are made to fail in any number of places (`Serves.withFaults`). A failure in a
stream leaves a beginning of what the stream gives, and such a stream is never read to its end.

The last section is what a run that reads a stream to its end, or looks users up, finds out from
them.
-/

namespace IssueNotice

open Run

namespace Collaborators

variable {σ : Type}

/-- What the collaborators answer, the rows of a store say; they may still fail at any call. -/
structure Serves (c : Collaborators σ) (st : Store) : Prop where
  /-- A stream gives the issues from the first one on. -/
  stream : ∀ s reads, (c.openStream s).1 = .ok reads → readable reads <+: st.issues
  /-- Read to its end it gives all of them. -/
  whole : c.Holds st.issues
  users : ∀ uuids s found, (c.selectUsers uuids s).1 = .ok found → found = st.select uuids
  rule : ∀ key s found, (c.findRule key s).1 = .ok found → found = (Rule.byKey st.rules)[key]?

variable {c : Collaborators σ} {st : Store}

theorem Serves.withLedger (h : c.Serves st) : c.withLedger.Serves st where
  stream s := h.stream s.1
  whole s := h.whole s.1
  users uuids s := h.users uuids s.1
  rule key s := h.rule key s.1

end Collaborators

namespace Run

/-! ## Collaborators that serve a store -/

theorem Store.serves (st : Store) : st.collaborators.Serves st where
  stream _ reads h := by
    have hall : readable reads = st.issues := by rw [← Except.ok.inj h, readable_map_ok]
    exact hall ▸ List.prefix_refl _
  whole := st.holds
  users _ _ _ h := (Except.ok.inj h).symm
  rule _ _ _ h := (Except.ok.inj h).symm

section Spoiled

/-- A failure in place of a read leaves a beginning of what a stream gives. -/
theorem readable_take_failure (reads : List Read) (n : Nat) (e : Failure) :
    readable (reads.take n ++ [.error e]) <+: readable reads := by
  induction reads generalizing n with
  | nil =>
    rw [List.take_nil]
    exact List.prefix_refl _
  | cons read rest ih =>
    cases n with
    | zero => exact List.nil_prefix
    | succ n =>
      cases read with
      | error e' => exact List.prefix_refl _
      | ok i => exact List.cons_prefix_cons.mpr ⟨rfl, ih n⟩

theorem breakage_append_failure (reads : List Read) (e : Failure) :
    breakage (reads ++ [.error e]) ≠ none := by
  induction reads with
  | nil => exact fun h => absurd h (by simp [breakage])
  | cons read rest ih =>
    cases read with
    | error e' => exact fun h => absurd h (by simp [breakage])
    | ok i => exact ih

/-- A stream and the same stream with some failures in it. -/
structure Spoils (reads spoiled : List Read) : Prop where
  beginning : readable spoiled <+: readable reads
  whole : breakage spoiled = none → breakage reads = none ∧ readable spoiled = readable reads

theorem Spoils.refl (reads : List Read) : Spoils reads reads :=
  ⟨List.prefix_refl _, fun h => ⟨h, rfl⟩⟩

theorem Spoils.trans {reads reads' reads'' : List Read} (h : Spoils reads reads')
    (h' : Spoils reads' reads'') : Spoils reads reads'' where
  beginning := h'.beginning.trans h.beginning
  whole hb := by
    obtain ⟨hb', hr'⟩ := h'.whole hb
    obtain ⟨hb, hr⟩ := h.whole hb'
    exact ⟨hb, hr'.trans hr⟩

theorem spoils_spoil (reads : List Read) (n : Nat) (e : Failure) :
    Spoils reads (spoil reads n e) := by
  unfold spoil
  split
  · exact ⟨readable_take_failure reads _ e, fun h => absurd h (breakage_append_failure _ e)⟩
  · exact .refl reads

theorem spoils_spoilAll (faults : List Fault) (call : Fallible) (reads : List Read) :
    Spoils reads (spoilAll faults call reads) := by
  unfold spoilAll
  induction faults.filter (·.call = call) generalizing reads with
  | nil => exact .refl reads
  | cons f rest ih => exact (spoils_spoil reads f.number f.failure).trans (ih _)

theorem spoils_spoilStream (faults : List Fault) (n : Nat) (reads : List Read) :
    Spoils reads (spoilStream faults n reads) := by
  unfold spoilStream
  split
  · exact spoils_spoilAll faults _ reads
  · split
    · exact spoils_spoilAll faults _ reads
    · exact .refl reads

end Spoiled

section Faults

variable {σ α : Type} {c : Collaborators σ} {st : Store}

/-- A call that answers in spite of the planned failures answers as without them. -/
theorem ok_of_unlessPlanned {failure : Option Failure} {answer : Answer σ α}
    {failed carriedOut : CallCounts} {s : σ × CallCounts} {a : α}
    (h : (unlessPlanned failure answer failed carriedOut s).1 = .ok a) :
    (answer s.1).1 = .ok a := by
  cases failure with
  | none => exact h
  | some e => cases h

/-- The stream that faulty collaborators hand out is a spoiled one of theirs. -/
theorem spoils_of_openStream {faults : List Fault} {s : σ × CallCounts} {reads : List Read}
    (h : ((withFaults faults c).openStream s).1 = .ok reads) :
    ∃ whole, (c.openStream s.1).1 = .ok whole ∧ Spoils whole reads := by
  let answer := unlessPlanned (planned faults .openStream (s.2.openStream + 1)) c.openStream s.2
    { s.2 with openStream := s.2.openStream + 1 } s
  change answer.1.map (spoilStream faults (s.2.openStream + 1)) = .ok reads at h
  cases hr : answer.1 with
  | error e =>
    rw [hr] at h
    cases h
  | ok whole =>
    rw [hr] at h
    rw [← Except.ok.inj h]
    exact ⟨whole, ok_of_unlessPlanned hr, spoils_spoilStream _ _ whole⟩

/-- Without planned failures the collaborators answer as before. -/
theorem withFaults_nil_alike (c : Collaborators σ) :
    CollaboratorsAlike (fun s t => s.1 = t) (withFaults [] c) c where
  hasSubscribers _ _ := by
    rintro s _ rfl
    exact ⟨rfl, rfl⟩
  openStream := by
    rintro s _ rfl
    have hstream : ∀ (n : Nat) (r : Except Failure (List Read)), r.map (spoilStream [] n) = r := by
      intro n r
      have hid : spoilStream [] n = id := by
        funext reads
        unfold spoilStream
        split_ifs <;> rfl
      rw [hid]
      exact congrFun Except.map_id r
    exact ⟨hstream _ _, rfl⟩
  closeStream := by
    rintro s _ rfl
    rfl
  openSession := by
    rintro s _ rfl
    exact ⟨rfl, rfl⟩
  selectUsers _ := by
    rintro s _ rfl
    exact ⟨rfl, rfl⟩
  closeSession := by
    rintro s _ rfl
    rfl
  findRule _ := by
    rintro s _ rfl
    exact ⟨rfl, rfl⟩
  sendBulk _ := by
    rintro s _ rfl
    exact ⟨rfl, rfl⟩
  sendSingle _ := by
    rintro s _ rfl
    exact ⟨rfl, rfl⟩

/-- **A run without planned failures is the run over the collaborators as they are.** -/
theorem execute_withFaults_nil (c : Collaborators σ) (r : Request) (s : σ) (counts : CallCounts) :
    OutcomeAlike (fun s t => s.1 = t) (execute (withFaults [] c) r (s, counts)) (execute c r s) :=
  execute_alike (withFaults_nil_alike c) r rfl

end Faults

end Run

namespace Collaborators

variable {σ : Type} {c : Collaborators σ} {st : Store}

/-- **Collaborators still serve a store when they are made to fail.** -/
theorem Serves.withFaults (h : c.Serves st) (faults : List Fault) :
    (Run.withFaults faults c).Serves st where
  stream s reads hs := by
    obtain ⟨whole, hw, hspoils⟩ := spoils_of_openStream hs
    exact hspoils.beginning.trans (h.stream s.1 whole hw)
  whole s reads hs hb := by
    obtain ⟨whole, hw, hspoils⟩ := spoils_of_openStream hs
    obtain ⟨hb, hr⟩ := hspoils.whole hb
    exact hr.trans (h.whole s.1 whole hw hb)
  users uuids s found hs := h.users uuids s.1 found (ok_of_unlessPlanned hs)
  rule key s found hs := h.rule key s.1 found (ok_of_unlessPlanned hs)

/-! ## What is found out from them -/

/-- A stream that was read to its end gave all issues. -/
theorem Serves.eq_of_gives (h : c.Serves st) {issues : List Issue} (hg : c.Gives issues) :
    issues = st.issues := by
  obtain ⟨stream, ⟨s, hs⟩, hb, rfl⟩ := hg
  exact h.whole s stream hs hb

/-- The users found are the last rows with the uuids. -/
theorem Serves.eq_of_resolves (h : c.Serves st) {uuids : List String} {users : Keyed User}
    (hu : c.Resolves uuids users) : users = User.byUuid (st.select uuids) := by
  unfold Resolves at hu
  by_cases he : uuids = []
  · rw [if_pos he] at hu
    rw [hu, he]
    rfl
  · rw [if_neg he] at hu
    obtain ⟨s, found, hf, rfl⟩ := hu
    rw [h.users uuids s found hf]

end Collaborators

end IssueNotice
