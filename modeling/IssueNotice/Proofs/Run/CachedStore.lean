import IssueNotice.Proofs.Run.IssueCache
import IssueNotice.Proofs.Run.Twin
import IssueNotice.Run.Store

/-!
# Stores that read their issues through a cache

`Store.collaborators` hands out the list of all issues as a stream, and counts on a meter what was
handed out and taken back. `Store.throughCache` is the same store with its issues in an
`IssueCache`: it opens a stream of the cache, hands out what reading that stream to its end gives,
and takes the stream back there.

`Store.Backs` relates what both have in hand: the meter of the cache is that of the store, and the
streams that were not taken back are the open ones of the cache. Every call keeps it
(`Store.throughCache_alike`), so that no run notices the cache (`execute_throughCache`).

The cache is read ahead where the stream is handed out. When it is read makes no difference: what a
stream gives depends on its own reads alone (`IssueCache.left_after`), and a run reads no stream
twice.
-/

namespace IssueNotice

namespace IssueCache

/-- Reads a stream to its end, at most a number of times. -/
def drain (c : IssueCache) (n : Nat) : Nat → List Issue × IssueCache
  | 0 => ([], c)
  | reads + 1 =>
    match c.next n with
    | (none, c) => ([], c)
    | (some issue, c) =>
      let (issues, c) := c.drain n reads
      (issue :: issues, c)

variable {c : IssueCache} {n : Nat}

/-- What is kept by every read is kept by all of them. -/
theorem drain_keeps {P : IssueCache → Prop} (hnext : ∀ c, P c → P (c.next n).2) (h : P c)
    (reads : Nat) : P (c.drain n reads).2 := by
  induction reads generalizing c with
  | zero => exact h
  | succ reads ih =>
    have hkept := hnext c h
    rw [drain]
    split
    · next hread =>
      rw [hread] at hkept
      exact hkept
    · next hread =>
      rw [hread] at hkept
      exact ih hkept

/-- **Reading a stream to its end gives what it has left**, if it is read often enough. -/
theorem drain_fst {issues : List Issue} (h : c.left n = some issues) {reads : Nat}
    (hreads : issues.length < reads) : (c.drain n reads).1 = issues := by
  obtain ⟨reads, rfl⟩ := Nat.exists_eq_add_of_lt (Nat.zero_lt_of_lt hreads)
  rw [Nat.zero_add] at hreads ⊢
  induction issues generalizing c reads with
  | nil =>
    have hread : (c.next n).1 = none := by rw [next_fst, h]; rfl
    rw [drain]
    split
    · rfl
    · next hnext =>
      rw [hnext] at hread
      cases hread
  | cons issue rest ih =>
    have hread : (c.next n).1 = some issue := by rw [next_fst, h]; rfl
    have hleft : (c.next n).2.left n = some rest := by rw [left_next, if_pos rfl, h]; rfl
    rw [drain]
    split
    · next hnext =>
      rw [hnext] at hread
      cases hread
    · next hnext =>
      rw [hnext] at hread hleft
      obtain rfl := Option.some.inj hread
      obtain ⟨reads, rfl⟩ := Nat.exists_eq_add_of_lt (Nat.lt_of_succ_lt_succ hreads)
      exact congrArg _ (ih hleft _ (by omega))

theorem issues_next : (c.next n).2.issues = c.issues := by
  unfold next
  split <;> rfl

theorem issues_closeStream : (c.closeStream n).issues = c.issues := by
  unfold closeStream
  split <;> rfl

end IssueCache

namespace Run

/-- What runs did to a store whose issues stand in a cache. -/
structure CacheUsage where
  cache : IssueCache
  /-- The streams that were not taken back, the one handed out last in front. -/
  held : List Nat := []
  /-- What runs did otherwise; its meter of streams stands still. -/
  usage : Usage := {}

end Run

open Run

/-- Answers a call that is about no stream. -/
def Answer.besideCache {α : Type} (answer : Answer Usage α) : Answer CacheUsage α := fun v =>
  let (result, usage) := answer v.usage
  (result, { v with usage })

namespace Run

/-- The collaborators that a store gives a run if its issues stand in a cache. -/
def Store.throughCache (st : Store) : Collaborators CacheUsage where
  hasSubscribers uuid kinds := (st.collaborators.hasSubscribers uuid kinds).besideCache
  openStream v :=
    let (n, cache) := v.cache.openStream
    -- the read behind the last issue finds the end
    let (issues, cache) := cache.drain n (cache.issues.length + 1)
    (.ok (issues.map .ok), { v with cache, held := n :: v.held })
  closeStream v :=
    match v.held with
    | [] => v
    | n :: held => { v with cache := v.cache.closeStream n, held }
  openSession := st.collaborators.openSession.besideCache
  selectUsers uuids := (st.collaborators.selectUsers uuids).besideCache
  closeSession v := { v with usage := st.collaborators.closeSession v.usage }
  findRule key := (st.collaborators.findRule key).besideCache
  sendBulk notices := (st.collaborators.sendBulk notices).besideCache
  sendSingle notice := (st.collaborators.sendSingle notice).besideCache

/-- What was done to a store is the same, with a cache and without. -/
structure Store.Backs (st : Store) (v : CacheUsage) (u : Usage) : Prop where
  issues : v.cache.issues = st.issues
  streams : v.cache.meter = u.streams
  /-- The streams that were not taken back are the open ones of the cache. -/
  readers : ∀ n, n ∈ v.held ↔ n ∈ v.cache.readers
  nodup : v.held.Nodup
  counted : v.held.length = u.streams.held
  sessions : v.usage.sessions = u.sessions
  outbox : v.usage.outbox = u.outbox

namespace Store

variable {st : Store} {v : CacheUsage} {u : Usage}

theorem backs_fresh (st : Store) : st.Backs { cache := { issues := st.issues } } {} where
  issues := rfl
  streams := rfl
  readers n := iff_of_false List.not_mem_nil (Finset.notMem_empty n)
  nodup := .nil
  counted := rfl
  sessions := rfl
  outbox := rfl

/-- **A stream of the cache gives all issues**, and is counted as the store counts it. -/
theorem Backs.openStream (h : st.Backs v u) :
    (st.throughCache.openStream v).1 = (st.collaborators.openStream u).1 ∧
      st.Backs (st.throughCache.openStream v).2 (st.collaborators.openStream u).2 := by
  let n := v.cache.openStream.1
  let opened := v.cache.openStream.2
  let drained := (opened.drain n (opened.issues.length + 1)).2
  have hleft : opened.left n = some st.issues := by
    rw [IssueCache.left_openStream]
    exact (if_pos rfl).trans (congrArg some h.issues)
  have hlength : st.issues.length < opened.issues.length + 1 :=
    Nat.lt_succ_of_le (congrArg List.length h.issues).ge
  -- reading on leaves the issues, the meter and the open streams
  have hkept : drained.issues = opened.issues ∧ drained.meter = opened.meter ∧
      drained.readers = opened.readers :=
    IssueCache.drain_keeps (P := fun c => c.issues = opened.issues ∧ c.meter = opened.meter ∧
      c.readers = opened.readers) (fun _ ⟨hi, hm, hr⟩ => ⟨IssueCache.issues_next.trans hi,
        IssueCache.meter_next.trans hm, IssueCache.readers_next.trans hr⟩) ⟨rfl, rfl, rfl⟩ _
  obtain ⟨hissues, hmeter, hreaders⟩ := hkept
  have hgiven : (opened.drain n (opened.issues.length + 1)).1 = st.issues :=
    IssueCache.drain_fst hleft hlength
  have hstream : (st.throughCache.openStream v).1 = .ok (st.issues.map .ok) :=
    congrArg (fun issues => Except.ok (List.map Except.ok issues)) hgiven
  refine ⟨hstream, ?_⟩
  refine { h with issues := hissues.trans h.issues, streams := ?_, readers := ?_, nodup := ?_,
                  counted := congrArg (· + 1) h.counted }
  · exact hmeter.trans (congrArg Meter.acquire h.streams)
  · intro m
    change m ∈ n :: v.held ↔ m ∈ drained.readers
    rw [hreaders, IssueCache.readers_openStream, List.mem_cons, Finset.mem_insert, h.readers]
    rfl
  · refine List.nodup_cons.mpr ⟨fun hn => ?_, h.nodup⟩
    exact IssueCache.size_not_mem_readers ((h.readers _).mp hn)

/-- Taking the last stream back closes it, and closes nothing if none is open. -/
theorem Backs.closeStream (h : st.Backs v u) :
    st.Backs (st.throughCache.closeStream v) (st.collaborators.closeStream u) := by
  obtain ⟨cache, held, usage⟩ := v
  cases held with
  | nil =>
    have hnone : u.streams.release = u.streams := by
      rw [Meter.release, ← h.counted]
      exact congrArg (Meter.mk u.streams.opened) h.counted
    exact { h with streams := h.streams.trans hnone.symm
                   counted := h.counted.trans (congrArg Meter.held hnone).symm }
  | cons n held =>
    have hn : n ∈ cache.readers := (h.readers n).mp List.mem_cons_self
    obtain ⟨hnew, hnodup⟩ := List.nodup_cons.mp h.nodup
    refine { h with issues := IssueCache.issues_closeStream.trans h.issues, streams := ?_,
                    readers := ?_, nodup := hnodup, counted := ?_ }
    · change (cache.closeStream n).meter = u.streams.release
      rw [IssueCache.meter_closeStream, if_pos hn]
      exact congrArg Meter.release h.streams
    · intro m
      change m ∈ held ↔ m ∈ (cache.closeStream n).readers
      rw [IssueCache.readers_closeStream, Finset.mem_erase, ← h.readers m, List.mem_cons]
      constructor
      · exact fun hm => ⟨fun hmn => hnew (hmn ▸ hm), .inr hm⟩
      · exact fun ⟨hmn, hm⟩ => hm.resolve_left hmn
    · exact congrArg (· - 1) h.counted

/-- **With a cache and without, a store answers alike.** -/
theorem throughCache_alike (st : Store) :
    CollaboratorsAlike st.Backs st.throughCache st.collaborators where
  hasSubscribers _ _ _ _ h := ⟨rfl, h⟩
  openStream _ _ h := h.openStream
  closeStream _ _ h := h.closeStream
  openSession _ _ h := ⟨rfl, { h with sessions := congrArg Meter.acquire h.sessions }⟩
  selectUsers _ _ _ h := ⟨rfl, h⟩
  closeSession _ _ h := { h with sessions := congrArg Meter.release h.sessions }
  findRule _ _ _ h := ⟨rfl, h⟩
  sendBulk _ _ _ h := ⟨rfl, { h with outbox := congrArg (· ++ _) h.outbox }⟩
  sendSingle _ _ _ h := ⟨rfl, { h with outbox := congrArg (· ++ _) h.outbox }⟩

end Store

/-- **A run over a cache does what it does over the list of the issues**, and leaves the same counts
of streams and sessions and the same outbox, from which the next run may start. -/
theorem execute_throughCache {st : Store} {v : CacheUsage} {u : Usage} (h : st.Backs v u)
    (r : Request) :
    OutcomeAlike st.Backs (execute st.throughCache r v) (execute st.collaborators r u) :=
  execute_alike st.throughCache_alike r h

end Run

end IssueNotice
