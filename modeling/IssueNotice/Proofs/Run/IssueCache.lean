import IssueNotice.Run.IssueCache
import Mathlib.Data.Finset.Card
import Mathlib.Data.List.Induction

/-!
# Streams of one cache are independent

What an issue cache answers after any operations: streams are handed out, read and taken back, in
any order and any number of them at a time.

`IssueCache.left` is what an open stream has left to read. Each operation changes it for one stream
at most (`left_openStream`, `left_next`, `left_closeStream`), so that what a stream gives depends on
the operations on itself alone (`left_after`): the issues in order, and then the end. The meter
counts the streams that have something left or are at their end, but were not taken back
(`held_after`); since it counts what is there, it never takes one back that it did not count.

`IssueCache.serves_after` puts this together.
-/

namespace IssueNotice.IssueCache

/-! ## Operations -/

/-- What is done with a cache; streams are numbered as they are handed out. -/
inductive Op where
  | openStream
  | next (stream : Nat)
  | closeStream (stream : Nat)
  deriving Repr, DecidableEq

/-- The cache after an operation. -/
def perform (c : IssueCache) : Op → IssueCache
  | .openStream => c.openStream.2
  | .next n => (c.next n).2
  | .closeStream n => c.closeStream n

/-- A cache of some issues after some operations. -/
def after (issues : List Issue) (ops : List Op) : IssueCache :=
  ops.foldl perform { issues }

/-- The number of streams that some operations hand out. -/
def opens (ops : List Op) : Nat := ops.count .openStream

/-- Stream `n` was handed out, and then came the operations `since`. -/
def Opened (ops : List Op) (n : Nat) (since : List Op) : Prop :=
  ∃ before, ops = before ++ .openStream :: since ∧ opens before = n

/-- Stream `n` was handed out and not taken back. -/
def Held (ops : List Op) (n : Nat) : Prop :=
  ∃ since, Opened ops n since ∧ .closeStream n ∉ since

theorem after_snoc (issues : List Issue) (ops : List Op) (op : Op) :
    after issues (ops ++ [op]) = (after issues ops).perform op := by
  rw [after, List.foldl_append]
  rfl

theorem opens_snoc (ops : List Op) (op : Op) :
    opens (ops ++ [op]) = opens ops + if op = .openStream then 1 else 0 := by
  rw [opens, List.count_append, List.count_singleton]
  simp [opens]

/-! ## What the streams have left -/

/-- What an open stream has left to read. -/
def left (c : IssueCache) (n : Nat) : Option (List Issue) := c.streams[n]?.join

section Left

variable (c : IssueCache) (m n : Nat)

/-- A read gives the first issue that the stream has left. -/
theorem next_fst : (c.next n).1 = (c.left n).bind List.head? := by
  unfold next left
  rcases c.streams[n]? with _ | _ | _ | ⟨issue, rest⟩ <;> rfl

theorem left_openStream :
    c.openStream.2.left n = if n = c.streams.size then some c.issues else c.left n := by
  unfold openStream left
  rw [Array.getElem?_push]
  split <;> rfl

theorem left_next :
    (c.next m).2.left n = if n = m then (c.left m).map List.tail else c.left n := by
  by_cases hnm : n = m
  · subst hnm
    rw [if_pos rfl]
    unfold next left
    rcases h : c.streams[n]? with _ | _ | _ | ⟨issue, rest⟩
    · simp [h]
    · simp [h]
    · simp [h]
    · have hlt := (Array.getElem?_eq_some_iff.mp h).1
      simp [hlt]
  · rw [if_neg hnm]
    unfold next left
    split
    · rw [Array.getElem?_setIfInBounds_ne (Ne.symm hnm)]
    · rfl

theorem left_closeStream :
    (c.closeStream m).left n = if n = m then none else c.left n := by
  by_cases hnm : n = m
  · subst hnm
    rw [if_pos rfl]
    unfold closeStream left
    rcases h : c.streams[n]? with _ | _ | rest
    · simp [h]
    · simp [h]
    · have hlt := (Array.getElem?_eq_some_iff.mp h).1
      simp [hlt]
  · rw [if_neg hnm]
    unfold closeStream left
    split
    · rw [Array.getElem?_setIfInBounds_ne (Ne.symm hnm)]
    · rfl

end Left

/-! ## Issues and numbers -/

/-- Reading and taking back leave the issues, the number of streams and the count of them. -/
theorem perform_frame (c : IssueCache) {op : Op} (h : op ≠ .openStream) :
    ∃ streams held, streams.size = c.streams.size ∧
      c.perform op = { c with streams, meter := { c.meter with held } } := by
  cases op with
  | openStream => exact absurd rfl h
  | next n =>
    change ∃ streams held, _ ∧ (c.next n).2 = _
    unfold next
    split
    · exact ⟨_, _, Array.size_setIfInBounds, rfl⟩
    · exact ⟨_, _, rfl, rfl⟩
  | closeStream n =>
    change ∃ streams held, _ ∧ c.closeStream n = _
    unfold closeStream
    split
    · exact ⟨_, _, Array.size_setIfInBounds, rfl⟩
    · exact ⟨_, _, rfl, rfl⟩

/-- The issues stay, and the streams are numbered and counted as they are handed out. -/
structure Numbered (issues : List Issue) (opened : Nat) (c : IssueCache) : Prop where
  issues : c.issues = issues
  size : c.streams.size = opened
  opened : c.meter.opened = opened

theorem numbered_after (issues : List Issue) (ops : List Op) :
    Numbered issues (opens ops) (after issues ops) := by
  induction ops using List.reverseRecOn with
  | nil => exact ⟨rfl, rfl, rfl⟩
  | append_singleton ops op ih =>
    rw [after_snoc, opens_snoc]
    by_cases hop : op = .openStream
    · subst hop
      exact ⟨ih.issues, (Array.size_push _).trans (congrArg (· + 1) ih.size),
        congrArg (· + 1) ih.opened⟩
    · obtain ⟨streams, held, hsize, hperform⟩ := perform_frame (after issues ops) hop
      rw [hperform, if_neg hop]
      exact ⟨ih.issues, hsize.trans ih.size, ih.opened⟩

/-! ## Each stream on its own -/

/-- **What a stream has left depends on the operations on itself alone**: on how often it was read,
and on whether it was taken back. -/
theorem left_after (issues : List Issue) {ops since : List Op} {n : Nat} (h : Opened ops n since) :
    (after issues ops).left n = if .closeStream n ∈ since then none
      else some (issues.drop (since.count (.next n))) := by
  obtain ⟨before, rfl, rfl⟩ := h
  -- the stream is at the first issue when it is handed out; from there on, one operation at a time
  induction since using List.reverseRecOn with
  | nil =>
    have hnumbered := numbered_after issues before
    rw [after_snoc, perform, left_openStream, if_pos hnumbered.size.symm, hnumbered.issues]
    rfl
  | append_singleton since op ih =>
    rw [← List.cons_append, ← List.append_assoc, after_snoc]
    cases op with
    | openStream =>
      -- a new stream has a number of its own
      have hne : opens before ≠ (after issues (before ++ .openStream :: since)).streams.size := by
        rw [(numbered_after _ _).size]
        simp only [opens, List.count_append, List.count_cons_self]
        omega
      rw [perform, left_openStream, if_neg hne, ih]
      simp
    | next m =>
      rw [perform, left_next]
      by_cases hm : opens before = m
      · subst hm
        rw [if_pos rfl, ih]
        by_cases hclosed : .closeStream (opens before) ∈ since
        · simp [hclosed]
        · simp [hclosed, List.count_append]
      · rw [if_neg hm, ih]
        simp [List.count_append, Ne.symm hm]
    | closeStream m =>
      rw [perform, left_closeStream]
      by_cases hm : opens before = m
      · simp [hm]
      · rw [if_neg hm, ih]
        simp [List.count_append, hm]

theorem exists_opened {ops : List Op} {n : Nat} (h : n < opens ops) :
    ∃ since, Opened ops n since := by
  induction ops using List.reverseRecOn with
  | nil => exact absurd h (Nat.not_lt_zero n)
  | append_singleton ops op ih =>
    by_cases hn : n < opens ops
    · obtain ⟨since, before, rfl, hbefore⟩ := ih hn
      exact ⟨since ++ [op], before, by simp, hbefore⟩
    · rw [opens_snoc] at h
      split at h
      · next hop =>
        subst hop
        exact ⟨[], ops, rfl, by omega⟩
      · omega

/-! ## The streams that are held -/

/-- The streams that are open. -/
def readers (c : IssueCache) : Finset Nat :=
  (Finset.range c.streams.size).filter fun n => (c.left n).isSome

section Readers

variable {c : IssueCache} {m n : Nat}

theorem mem_readers : n ∈ c.readers ↔ (c.left n).isSome := by
  unfold readers
  rw [Finset.mem_filter, Finset.mem_range, and_iff_right_iff_imp]
  intro h
  by_contra hle
  rw [left, Array.getElem?_eq_none (Nat.le_of_not_lt hle)] at h
  exact absurd h (by simp)

theorem size_not_mem_readers : c.streams.size ∉ c.readers := fun h =>
  absurd (Finset.mem_range.mp (Finset.mem_filter.mp h).1) (Nat.lt_irrefl _)

theorem readers_openStream : c.openStream.2.readers = insert c.streams.size c.readers := by
  ext n
  rw [mem_readers, left_openStream, Finset.mem_insert, mem_readers]
  by_cases hn : n = c.streams.size <;> simp [hn]

theorem readers_next : (c.next m).2.readers = c.readers := by
  ext n
  rw [mem_readers, left_next, mem_readers]
  by_cases hn : n = m
  · simp [hn]
  · rw [if_neg hn]

theorem readers_closeStream : (c.closeStream m).readers = c.readers.erase m := by
  ext n
  rw [mem_readers, left_closeStream, Finset.mem_erase, mem_readers]
  by_cases hn : n = m <;> simp [hn]

theorem meter_next : (c.next m).2.meter = c.meter := by
  unfold next
  split <;> rfl

theorem meter_closeStream :
    (c.closeStream m).meter = if m ∈ c.readers then c.meter.release else c.meter := by
  simp only [mem_readers, left]
  unfold closeStream
  rcases h : c.streams[m]? with _ | _ | rest <;> simp

/-- The meter of held streams counts those that are open. -/
theorem held_perform (h : c.meter.held = c.readers.card) (op : Op) :
    (c.perform op).meter.held = (c.perform op).readers.card := by
  cases op with
  | openStream =>
    rw [perform, readers_openStream, Finset.card_insert_of_notMem size_not_mem_readers, ← h]
    rfl
  | next m => rw [perform, readers_next, meter_next, h]
  | closeStream m =>
    rw [perform, readers_closeStream, meter_closeStream]
    split
    · next hm =>
      rw [Finset.card_erase_of_mem hm, ← h]
      rfl
    · next hm => rw [Finset.erase_eq_of_notMem hm, h]

end Readers

theorem held_after (issues : List Issue) (ops : List Op) :
    (after issues ops).meter.held = (after issues ops).readers.card := by
  induction ops using List.reverseRecOn with
  | nil => rfl
  | append_singleton ops op ih =>
    rw [after_snoc]
    exact held_perform ih op

/-- The open streams are those that were handed out and not taken back. -/
theorem mem_readers_after {issues : List Issue} {ops : List Op} {n : Nat} :
    n ∈ (after issues ops).readers ↔ Held ops n := by
  constructor
  · intro h
    have hlt : n < opens ops := by
      rw [← (numbered_after issues ops).size]
      exact Finset.mem_range.mp (Finset.mem_filter.mp h).1
    obtain ⟨since, hsince⟩ := exists_opened hlt
    refine ⟨since, hsince, fun hclosed => ?_⟩
    rw [mem_readers, left_after issues hsince, if_pos hclosed] at h
    exact absurd h (by simp)
  · rintro ⟨since, hsince, hopen⟩
    rw [mem_readers, left_after issues hsince, if_neg hopen]
    rfl

/-! ## A cache as a whole -/

/-- What a cache of some issues answers after some operations. -/
structure Serves (issues : List Issue) (ops : List Op) (c : IssueCache) : Prop where
  /-- Streams are numbered as they are handed out. -/
  number : c.openStream.1 = opens ops
  /-- A stream that was read `k` times gives the issue at place `k`, or the end if the issues are
  fewer, whatever was done with other streams in between. -/
  read : ∀ n since, Opened ops n since → .closeStream n ∉ since →
    (c.next n).1 = issues[since.count (.next n)]?
  opened : c.meter.opened = opens ops
  held : ∃ streams : Finset Nat, (∀ n, n ∈ streams ↔ Held ops n) ∧ c.meter.held = streams.card
  /-- Taking a stream back takes one off the count, which is not zero then. -/
  release : ∀ n, Held ops n → (c.closeStream n).meter.held + 1 = c.meter.held
  released : c.meter.held = 0 ↔ ∀ n, ¬ Held ops n

/-- **The streams of a cache are independent**, and its meter counts them, after any operations. -/
theorem serves_after (issues : List Issue) (ops : List Op) :
    Serves issues ops (after issues ops) where
  number := (numbered_after issues ops).size
  read n since hsince hopen := by
    rw [next_fst, left_after issues hsince, if_neg hopen, Option.bind_some, List.head?_drop]
  opened := (numbered_after issues ops).opened
  held := ⟨_, fun _ => mem_readers_after, held_after issues ops⟩
  release n hn := by
    have hmem : n ∈ (after issues ops).readers := mem_readers_after.mpr hn
    have hpos : 0 < (after issues ops).meter.held := by
      rw [held_after]
      exact Finset.card_pos.mpr ⟨n, hmem⟩
    rw [meter_closeStream, if_pos hmem]
    exact Nat.sub_add_cancel hpos
  released := by
    rw [held_after, Finset.card_eq_zero, Finset.eq_empty_iff_forall_notMem]
    exact forall_congr' fun n => not_congr mem_readers_after

end IssueNotice.IssueCache
