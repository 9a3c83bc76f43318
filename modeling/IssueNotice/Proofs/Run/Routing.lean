import IssueNotice.Proofs.Chunks
import IssueNotice.Proofs.Component.Lookups
import IssueNotice.Proofs.Run.Contract
import IssueNotice.Proofs.Statistics

/-!
# Routing is announcing chunks

While the issues are read, new, changed and ignored ones come in any order, the batch under
construction fills up in between, and the index of files is built by the first lookup and kept.
This takes it apart, for collaborators of any kind:

* `draftChanges_eq`: an index that looked anything up before makes no difference to the notices.
* `fold_routeIssue`: routing announces the changed issues in chunks of the batch's capacity, one
  chunk after the other, counts the new issues on the side and leaves the rest of the changed issues
  in the batch.
* `routeIssues_eq`: the last chunk is announced behind the stream.
-/

namespace IssueNotice

namespace LeakPeriod

/-- The issues for which a change notice is due. -/
def changed (p : LeakPeriod) (issues : List Issue) : List Issue :=
  issues.filter fun i => p.route i == .announced

/-- The new issues that are counted, each with whether it is on the leak period. -/
def counted (p : LeakPeriod) (issues : List Issue) : List (Issue × Bool) :=
  issues.filterMap fun i =>
    match p.route i with
    | .counted onLeak => some (i, onLeak)
    | _ => none

section Cons

variable {p : LeakPeriod} {i : Issue}

theorem changed_cons_of_announced (h : p.route i = .announced) (rest : List Issue) :
    p.changed (i :: rest) = i :: p.changed rest :=
  List.filter_cons_of_pos (beq_iff_eq.mpr h)

theorem changed_cons_of_ne (h : p.route i ≠ .announced) (rest : List Issue) :
    p.changed (i :: rest) = p.changed rest :=
  List.filter_cons_of_neg fun he => h (beq_iff_eq.mp he)

theorem counted_cons_of_counted {onLeak : Bool} (h : p.route i = .counted onLeak)
    (rest : List Issue) : p.counted (i :: rest) = (i, onLeak) :: p.counted rest :=
  List.filterMap_cons_some (by rw [h])

theorem counted_cons_of_ne (h : ∀ onLeak, p.route i ≠ .counted onLeak) (rest : List Issue) :
    p.counted (i :: rest) = p.counted rest := by
  refine List.filterMap_cons_none ?_
  split
  · next onLeak hr => exact absurd hr (h onLeak)
  · rfl

end Cons

theorem mem_changed {p : LeakPeriod} {issues : List Issue} {i : Issue} :
    i ∈ p.changed issues ↔ i ∈ issues ∧ p.route i = .announced := by
  simp [changed]

theorem mem_counted {p : LeakPeriod} {issues : List Issue} {i : Issue} {onLeak : Bool} :
    (i, onLeak) ∈ p.counted issues ↔ i ∈ issues ∧ p.route i = .counted onLeak := by
  unfold counted
  rw [List.mem_filterMap]
  constructor
  · rintro ⟨j, hj, h⟩
    split at h
    · next b hb =>
      obtain ⟨rfl, rfl⟩ := Prod.mk.inj (Option.some.inj h)
      exact ⟨hj, hb⟩
    · exact absurd h (by simp)
  · rintro ⟨hi, hr⟩
    exact ⟨i, hi, by rw [hr]⟩

end LeakPeriod

namespace Run

/-! ## Assignees -/

/-- The uuids of the assignees of some issues, in order and each once. -/
def assignees (issues : List Issue) : List String :=
  (issues.foldl (fun uuids i => uuids.insertMany i.assignee.toList) (∅ : TextSet)).toList

theorem mem_foldl_assignee {issues : List Issue} (uuids : TextSet) {uuid : String} :
    uuid ∈ issues.foldl (fun uuids i => uuids.insertMany i.assignee.toList) uuids ↔
      uuid ∈ uuids ∨ ∃ i ∈ issues, i.assignee = some uuid := by
  induction issues generalizing uuids with
  | nil => simp
  | cons i rest ih =>
    have hi : uuid ∈ uuids.insertMany i.assignee.toList ↔
        uuid ∈ uuids ∨ i.assignee = some uuid := by
      simp [Std.ExtTreeSet.mem_insertMany_list]
    rw [List.foldl_cons, ih, hi, or_assoc]
    simp only [List.mem_cons, exists_eq_or_imp]

theorem mem_assignees {issues : List Issue} {uuid : String} :
    uuid ∈ assignees issues ↔ ∃ i ∈ issues, i.assignee = some uuid := by
  unfold assignees
  rw [Std.ExtTreeSet.mem_toList, mem_foldl_assignee]
  simp

variable {σ : Type} (c : Collaborators σ)

/-! ## Drafts without an index -/

/-- Drafts the notices of changed issues, each with the last file that has the key it names. -/
def draftAll (d : Desk) : List Issue → Traced σ (List Notice) :=
  Traced.each fun i => draftChange c d i (d.tree.fileNamed i.component)

variable {c} {d : Desk}

/-- **Whatever was looked up before, notices are drafted with the last file of each key.** The index
makes no difference but to what it has looked up in the end. -/
theorem draftChanges_eq {index : FileIndex d.tree} (h : index.Used) (issues : List Issue) :
    draftChanges c d index issues = (do
      let notices ← draftAll c d issues
      pure (notices, index.after (issues.map (·.component)))) := by
  have hstep : ∀ (index : FileIndex d.tree) (i : Issue), index.Used →
      (do let notice ← draftChange c d i ((index.find i.component).1.map d.tree.component)
          pure (notice, (index.find i.component).2)) =
        (do let notice ← draftChange c d i (d.tree.fileNamed i.component)
            pure (notice, (index.find i.component).2)) := by
    intro index i h
    rw [h.find_fst, ComponentTree.getElem?_fileTable]
  rw [FileIndex.after, List.foldl_map]
  exact Traced.mapAccum_eq_each hstep (fun _ i h => h.after [i.component]) h issues

/-- Drafting stops at an issue whose rule cannot be had, behind issues whose notices are drafted. -/
def Stops (c : Collaborators σ) (d : Desk) (changed : List Issue) (e : Failure) : Prop :=
  ∃ known i more, changed = known ++ i :: more ∧
    (∀ k ∈ known, ∃ notice, c.Drafts d k notice) ∧ c.Misses i.ruleKey e

theorem drafts_of_ok {i : Issue} {notice : Notice} {s : σ}
    (h : (draftChange c d i (d.tree.fileNamed i.component) s).result = .ok notice) :
    c.Drafts d i notice := by
  obtain ⟨rule, hr, h⟩ := Traced.exists_of_bind_ok h
  rw [Traced.result_ofExcept] at h
  cases rule with
  | none => cases h
  | some rule => exact ⟨s, rule, hr, h⟩

theorem misses_of_error {i : Issue} {file : Option Component} {e : Failure} {s : σ}
    (h : (draftChange c d i file s).result = .error e) : c.Misses i.ruleKey e := by
  rcases Traced.of_bind_error h with h | ⟨rule, hr, h⟩
  · exact ⟨s, .inl h⟩
  · rw [Traced.result_ofExcept] at h
    cases rule with
    | none => exact ⟨s, .inr ⟨hr, (Except.error.inj h).symm⟩⟩
    | some rule => cases h

/-- Where notices were drafted, there is one for each issue. -/
theorem forall₂_drafts_of_ok {changed : List Issue} {notices : List Notice} {s : σ}
    (h : (draftAll c d changed s).result = .ok notices) :
    List.Forall₂ (c.Drafts d) changed notices :=
  (Traced.forall₂_of_each_ok h).imp fun _ _ ⟨_, h⟩ => drafts_of_ok h

/-- Where drafting failed, it was for want of a rule. -/
theorem stops_of_error {changed : List Issue} {e : Failure} {s : σ}
    (h : (draftAll c d changed s).result = .error e) : Stops c d changed e := by
  obtain ⟨known, i, more, rfl, hknown, s, hi⟩ := Traced.exists_of_each_error h
  refine ⟨known, i, more, rfl, fun k hk => ?_, misses_of_error hi⟩
  obtain ⟨s, notice, hn⟩ := hknown k hk
  exact ⟨notice, drafts_of_ok hn⟩

/-! ## Chunks in place of the batch -/

variable (c d)

/-- Announces a chunk of changed issues; carries the counters and the number announced so far. -/
def announceChunk (q : Counters × Nat) (chunk : List Issue) : Traced σ (Counters × Nat) := do
  let notices ← draftAll c d chunk
  let counters ← send c .issueChanges 1 notices q.1
  .note (.progress (q.2 + chunk.length) "changed issues notified")
  pure (counters, q.2 + chunk.length)

/-- Announces chunks of changed issues one after the other. -/
def announceChunks : Counters × Nat → List (List Issue) → Traced σ (Counters × Nat) :=
  Traced.fold (announceChunk c d)

section Progress

variable {t : ComponentTree}

/-- The state of a run behind some announcements. -/
def Progress.after (p : Progress t) (q : Counters × Nat) : Progress t :=
  { p with counters := q.1, announced := q.2 }

/-- A run behind the announcement of its batch, but for what that counts. -/
def Progress.emptied (p : Progress t) : Progress t :=
  { p with
    index := p.index.after (p.batch.items.toList.map (·.component))
    batch := p.batch.take.2 }

/-- What routing leaves in the batch, in the index and in the counts of new issues. -/
def Progress.routed (p : Progress t) (period : LeakPeriod) (issues : List Issue) : Progress t where
  index := p.index.after ((fullChunks p.batch.capacity
    (p.batch.items.toList ++ period.changed issues)).flatten.map (·.component))
  rollup := p.rollup.addAll (period.counted issues)
  batch := { p.batch with
    items := (leftover p.batch.capacity
      (p.batch.items.toList ++ period.changed issues)).toArray }
  counters := p.counters
  announced := p.announced

end Progress

variable {c d}

/-- A batch is announced as the chunk of its items, and is empty then. -/
theorem announce_eq {p : Progress d.tree} (h : p.index.Used) :
    announce c d p = (do
      let q ← announceChunk c d (p.counters, p.announced) p.batch.items.toList
      pure (p.emptied.after q)) := by
  unfold announce announceChunk
  simp only [Batch.take, draftChanges_eq h, bind_assoc, pure_bind]
  rfl

/-- **Routing announces the full chunks of the changed issues**, those of the batch in front. -/
theorem fold_routeIssue (period : LeakPeriod) (issues : List Issue) {p : Progress d.tree}
    (hi : p.index.Used) (hp : p.batch.items.size < p.batch.capacity) :
    Traced.fold (routeIssue c period d) p issues = (do
      let q ← announceChunks c d (p.counters, p.announced)
        (fullChunks p.batch.capacity (p.batch.items.toList ++ period.changed issues))
      pure ((p.routed period issues).after q)) := by
  induction issues generalizing p with
  | nil =>
    have hlt : (p.batch.items.toList ++ period.changed []).length < p.batch.capacity := by
      simpa [LeakPeriod.changed] using hp
    rw [Progress.routed, fullChunks_of_lt hlt, leftover_of_lt hlt]
    simp [Traced.fold, announceChunks, LeakPeriod.changed, LeakPeriod.counted, Rollup.addAll,
      Progress.after, FileIndex.after]
  | cons i rest ih =>
    unfold Traced.fold routeIssue
    cases hr : period.route i with
    | ignored =>
      have hch := LeakPeriod.changed_cons_of_ne (p := period) (i := i) (by simp [hr]) rest
      have hco := LeakPeriod.counted_cons_of_ne (p := period) (i := i) (by simp [hr]) rest
      simp only [pure_bind, Progress.routed, hch, hco]
      exact ih hi hp
    | counted onLeak =>
      have hch := LeakPeriod.changed_cons_of_ne (p := period) (i := i) (by simp [hr]) rest
      have hco := LeakPeriod.counted_cons_of_counted hr rest
      simp only [pure_bind, Progress.routed, hch, hco, Rollup.addAll, List.foldl_cons]
      exact ih (p := { p with rollup := p.rollup.add i onLeak }) hi hp
    | announced =>
      have hch := LeakPeriod.changed_cons_of_announced hr rest
      have hco := LeakPeriod.counted_cons_of_ne (p := period) (i := i) (by simp [hr]) rest
      have hsplit : p.batch.items.toList ++ period.changed (i :: rest) =
          (p.batch.push i).items.toList ++ period.changed rest := by
        simp [hch, Batch.push]
      simp only [Progress.routed, hsplit, hco]
      by_cases hf : (p.batch.push i).isFull
      · -- the pushed issue completes the first chunk
        have hlen : (p.batch.push i).items.toList.length = p.batch.capacity := by
          simp [Batch.isFull, Batch.push, Batch.size] at hf ⊢
          omega
        have hpos : 0 < p.batch.capacity := by omega
        rw [if_pos hf, fullChunks_append hpos hlen, leftover_append hpos hlen,
          announce_eq (p := { p with batch := p.batch.push i }) hi]
        simp only [announceChunks, Traced.fold, bind_assoc, pure_bind, List.flatten_cons,
          List.map_append, FileIndex.after_append]
        congr 1
        funext q
        exact ih (hi.after _) hpos
      · have hlt : (p.batch.push i).items.size < p.batch.capacity := by
          simpa [Batch.isFull, Batch.push, Batch.size] using hf
        rw [if_neg hf, pure_bind]
        exact ih (p := { p with batch := p.batch.push i }) hi hlt

/-- Routing from the start: the full chunks while the stream is open. -/
theorem fold_routeIssue_start (period : LeakPeriod) (issues : List Issue) :
    Traced.fold (routeIssue c period d) {} issues = (do
      let q ← announceChunks c d ({}, 0) (fullChunks changeBatchSize (period.changed issues))
      pure ((({} : Progress d.tree).routed period issues).after q)) :=
  fold_routeIssue period issues FileIndex.used_empty (show 0 < changeBatchSize by decide)

/-- What was looked up while the issues were read came into an index that was empty at first. -/
theorem used_of_foldIssues_ok {period : LeakPeriod} {s : σ} {p : Progress d.tree}
    (h : (c.foldIssues (routeIssue c period d) {} s).result = .ok p) : p.index.Used := by
  obtain ⟨issues, t, h⟩ := exists_fold_of_foldIssues_ok _ _ h
  rw [fold_routeIssue_start] at h
  obtain ⟨q, -, hq⟩ := Traced.exists_of_bind_ok h
  rw [← Except.ok.inj hq]
  exact FileIndex.used_empty.after _

/-- What is left in the batch behind the last issue is one more chunk, unless it is empty. -/
theorem announce_rest_eq {p : Progress d.tree} (h : p.index.Used) :
    (if p.batch.isEmpty then pure p else announce c d p) = (do
      let q ← announceChunks c d (p.counters, p.announced) (lastChunk p.batch.items.toList)
      pure (p.emptied.after q)) := by
  by_cases he : p.batch.items = #[]
  · have hp : p.emptied = p := by
      obtain ⟨index, rollup, ⟨capacity, items⟩, counters, announced⟩ := p
      obtain rfl : items = #[] := he
      rfl
    have hl : lastChunk p.batch.items.toList = [] := by
      rw [he]
      rfl
    rw [if_pos (by simp [Batch.isEmpty, he]), hp, hl]
    rfl
  · have hl : lastChunk p.batch.items.toList = [p.batch.items.toList] :=
      lastChunk_of_ne_nil (by simpa using he)
    rw [if_neg (by simpa [Batch.isEmpty] using he), hl, announce_eq h]
    simp only [announceChunks, Traced.fold, bind_assoc, pure_bind]

/-- **Routing is announcing chunks**: the full ones while the stream is open, the last one behind
it. -/
theorem routeIssues_eq (period : LeakPeriod) : routeIssues c period d = (do
    let p ← c.foldIssues (routeIssue c period d) {}
    let q ← announceChunks c d (p.counters, p.announced) (lastChunk p.batch.items.toList)
    pure (p.emptied.after q)) :=
  Traced.bind_congr_of_ok fun _ _ h => announce_rest_eq (used_of_foldIssues_ok h)

end Run

end IssueNotice
