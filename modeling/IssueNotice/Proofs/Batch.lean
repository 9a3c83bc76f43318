import IssueNotice.Proofs.Run.Routing

/-!
# Batches neither lose nor overfill

What a batch does under any operations: items are pushed, and now and then taken.

`Batch.flatten_handedOut_append` is the law of conservation: what all takes handed out, followed by
what still waits, is what was pushed, in order. A batch answers a push with whether it is full. If
each push that fills it is followed by a take (`Batch.Prompt`), a batch never holds more than its
quota, which is its capacity, or one item if the capacity is zero, since an item is pushed before
the batch is asked. The invariant is `Batch.Poised`: a batch is at its quota only in front of a
take.

If there are no takes but these (`Batch.NoEarlyTake`), the operations are those of `Batch.feed`
(`Batch.eq_feed`), and the takes hand out the full chunks of what was pushed
(`Batch.handedOut_feed`). `Run.feeds_changed` says that this is how issues are routed.
-/

namespace IssueNotice

namespace Batch

variable {α : Type}

/-! ## Operations -/

/-- What is done with a batch. -/
inductive Op (α : Type) where
  | push (a : α)
  | take
  deriving DecidableEq

/-- The batch after an operation. -/
def perform (b : Batch α) : Op α → Batch α
  | .push a => b.push a
  | .take => b.take.2

/-- The batch after some operations. -/
def after (b : Batch α) (ops : List (Op α)) : Batch α := ops.foldl perform b

/-- What the takes among some operations hand out, in order. -/
def handedOut (b : Batch α) : List (Op α) → List (List α)
  | [] => []
  | .push a :: ops => (b.push a).handedOut ops
  | .take :: ops => b.take.1 :: b.take.2.handedOut ops

/-- The items that some operations push. -/
def pushed : List (Op α) → List α
  | [] => []
  | .push a :: ops => a :: pushed ops
  | .take :: ops => pushed ops

/-- What a push answers: whether the batch is full behind it. -/
def fills (b : Batch α) (a : α) : Bool := (b.push a).isFull

/-- A take follows each push that fills the batch. -/
def Prompt (b : Batch α) (ops : List (Op α)) : Prop :=
  ∀ before a rest, ops = before ++ .push a :: rest → (b.after before).fills a = true →
    rest.head? = some .take

/-- There are no takes but right behind a push that fills the batch. -/
def NoEarlyTake (b : Batch α) (ops : List (Op α)) : Prop :=
  ∀ before rest, ops = before ++ .take :: rest →
    ∃ first a, before = first ++ [.push a] ∧ (b.after first).fills a = true

/-- The number of items that fill a batch which starts empty. -/
def quota (b : Batch α) : Nat := max b.capacity 1

section Basic

variable (b : Batch α) (a : α) (ops : List (Op α))

theorem after_cons (op : Op α) : b.after (op :: ops) = (b.perform op).after ops := rfl

theorem after_append (more : List (Op α)) : b.after (ops ++ more) = (b.after ops).after more :=
  List.foldl_append

theorem size_push : (b.push a).size = b.size + 1 := Array.size_push a

theorem toList_push : (b.push a).items.toList = b.items.toList ++ [a] := Array.toList_push

theorem capacity_perform (op : Op α) : (b.perform op).capacity = b.capacity := by
  cases op <;> rfl

theorem quota_perform (op : Op α) : (b.perform op).quota = b.quota := by
  rw [quota, capacity_perform, quota]

theorem capacity_after : (b.after ops).capacity = b.capacity := by
  induction ops generalizing b with
  | nil => rfl
  | cons op ops ih => rw [after_cons, ih, capacity_perform]

theorem fills_iff : b.fills a = true ↔ b.capacity ≤ b.size + 1 := by
  rw [fills, isFull, decide_eq_true_eq, size_push]
  rfl

end Basic

/-! ## The quota -/

section Quota

variable {b : Batch α} {a : α}

theorem quota_pos (b : Batch α) : 0 < b.quota :=
  Nat.lt_of_lt_of_le Nat.one_pos (Nat.le_max_right _ _)

theorem quota_after (b : Batch α) (ops : List (Op α)) : (b.after ops).quota = b.quota := by
  rw [quota, capacity_after, quota]

/-- A push that fills a batch below its quota brings it there. -/
theorem size_push_of_fills (hsize : b.size < b.quota) (hfills : b.fills a = true) :
    (b.push a).size = b.quota := by
  rw [fills_iff] at hfills
  rw [size_push]
  unfold quota at *
  omega

theorem size_push_of_not (h : ¬ b.fills a = true) : (b.push a).size < b.quota := by
  rw [fills_iff] at h
  rw [size_push]
  unfold quota
  omega

end Quota

/-! ## Nothing is lost -/

/-- **What was taken and what still waits is what was pushed**, behind what waited at first. -/
theorem flatten_handedOut_append (b : Batch α) (ops : List (Op α)) :
    (b.handedOut ops).flatten ++ (b.after ops).items.toList = b.items.toList ++ pushed ops := by
  induction ops generalizing b with
  | nil => simp [handedOut, pushed, after]
  | cons op ops ih =>
    cases op with
    | push a =>
      rw [handedOut, after_cons, perform, ih, toList_push, pushed, List.append_assoc,
        List.singleton_append]
    | take =>
      rw [handedOut, after_cons, perform, List.flatten_cons, List.append_assoc, ih]
      rfl

/-! ## Nothing is held beyond the quota -/

section Prompt

variable {b : Batch α} {op : Op α} {ops : List (Op α)}

theorem Prompt.tail (h : b.Prompt (op :: ops)) : (b.perform op).Prompt ops :=
  fun before a rest hsplit => h (op :: before) a rest (congrArg (op :: ·) hsplit)

/-- A batch with some operations ahead is at its quota only if the next is a take. -/
def Poised (b : Batch α) (ops : List (Op α)) : Prop :=
  b.size ≤ b.quota ∧ (b.size = b.quota → ops.head? = some .take)

theorem Poised.lt_quota {a : α} (h : b.Poised (.push a :: ops)) : b.size < b.quota :=
  Nat.lt_of_le_of_ne h.1 fun heq => absurd (h.2 heq) (by simp)

theorem Poised.perform (h : b.Poised (op :: ops)) (hprompt : b.Prompt (op :: ops)) :
    (b.perform op).Poised ops := by
  rw [Poised, quota_perform]
  cases op with
  | take => exact ⟨Nat.zero_le _, fun heq => absurd heq (Nat.ne_of_lt b.quota_pos)⟩
  | push a =>
    by_cases hfills : b.fills a = true
    · exact ⟨Nat.le_of_eq (size_push_of_fills h.lt_quota hfills),
        fun _ => hprompt [] a ops rfl hfills⟩
    · have hroom := size_push_of_not hfills
      exact ⟨Nat.le_of_lt hroom, fun heq => absurd heq (Nat.ne_of_lt hroom)⟩

/-- Between prompt operations a batch stays poised. -/
theorem Poised.after {before rest : List (Op α)} (h : b.Poised (before ++ rest))
    (hprompt : b.Prompt (before ++ rest)) : (b.after before).Poised rest := by
  induction before generalizing b with
  | nil => exact h
  | cons op before ih => exact ih (h.perform hprompt) hprompt.tail

end Prompt

/-! ## The takes of a batch that is fed -/

/-- The operations that push some items and take the batch whenever it is full. -/
def feed (b : Batch α) : List α → List (Op α)
  | [] => []
  | a :: as =>
    if b.fills a then .push a :: .take :: (b.push a).take.2.feed as
    else .push a :: (b.push a).feed as

theorem pushed_feed (b : Batch α) (as : List α) : pushed (b.feed as) = as := by
  induction as generalizing b with
  | nil => rfl
  | cons a as ih =>
    rw [feed]
    split <;> simp only [pushed, ih]

section Feed

variable {b : Batch α} {a : α} {ops : List (Op α)}

theorem Prompt.cons {op : Op α} (h : (b.perform op).Prompt ops)
    (hop : ∀ a, op = .push a → b.fills a = true → ops.head? = some .take) :
    b.Prompt (op :: ops) := by
  intro before a rest hsplit hfills
  rcases List.cons_eq_append_iff.mp hsplit with ⟨rfl, hcons⟩ | ⟨before, rfl, hops⟩
  · obtain ⟨rfl, rfl⟩ := List.cons.inj hcons
    exact hop a rfl hfills
  · exact h before a rest hops hfills

theorem NoEarlyTake.push (h : (b.push a).NoEarlyTake ops) : b.NoEarlyTake (.push a :: ops) := by
  intro before rest hsplit
  rcases List.cons_eq_append_iff.mp hsplit with ⟨-, hcons⟩ | ⟨before, rfl, hops⟩
  · cases hcons
  · obtain ⟨first, a', rfl, hfills⟩ := h before rest hops
    exact ⟨.push a :: first, a', rfl, hfills⟩

theorem NoEarlyTake.push_take (h : (b.push a).take.2.NoEarlyTake ops) (hfills : b.fills a = true) :
    b.NoEarlyTake (.push a :: .take :: ops) := by
  intro before rest hsplit
  rcases List.cons_eq_append_iff.mp hsplit with ⟨-, hcons⟩ | ⟨before, rfl, htail⟩
  · cases hcons
  rcases List.cons_eq_append_iff.mp htail with ⟨rfl, -⟩ | ⟨before, rfl, hops⟩
  · exact ⟨[], a, rfl, hfills⟩
  · obtain ⟨first, a', rfl, hfills'⟩ := h before rest hops
    exact ⟨.push a :: .take :: first, a', rfl, hfills'⟩

theorem prompt_feed (b : Batch α) (as : List α) : b.Prompt (b.feed as) := by
  induction as generalizing b with
  | nil => exact fun before a rest hsplit => absurd hsplit.symm (by simp [feed])
  | cons a as ih =>
    rw [feed]
    split
    · exact Prompt.cons (Prompt.cons (ih _) nofun) fun _ _ _ => rfl
    · next hno =>
      refine Prompt.cons (ih _) fun a' ha' hfills => absurd hfills ?_
      obtain rfl := Op.push.inj ha'
      exact hno

theorem noEarlyTake_feed (b : Batch α) (as : List α) : b.NoEarlyTake (b.feed as) := by
  induction as generalizing b with
  | nil => exact fun before rest hsplit => absurd hsplit.symm (by simp [feed])
  | cons a as ih =>
    rw [feed]
    split
    · next hfills => exact (ih _).push_take hfills
    · exact (ih _).push

/-- Behind anything but a push that fills the batch there is no take. -/
theorem NoEarlyTake.head?_ne (front : List (Op α)) {op : Op α}
    (h : b.NoEarlyTake (front ++ op :: ops))
    (hop : ∀ a, op = .push a → ¬ (b.after front).fills a = true) : ops.head? ≠ some .take := by
  intro hhead
  obtain ⟨rest, rfl⟩ := List.head?_eq_some_iff.mp hhead
  obtain ⟨first, a, hfirst, hfills⟩ := h (front ++ [op]) rest (by simp)
  obtain ⟨rfl, hlast⟩ := List.append_inj' hfirst rfl
  exact hop a (List.singleton_inj.mp hlast) hfills

theorem NoEarlyTake.drop (front : List (Op α)) (h : b.NoEarlyTake (front ++ ops))
    (hops : ops.head? ≠ some .take) : (b.after front).NoEarlyTake ops := by
  intro before rest hsplit
  obtain ⟨first, a, hfirst, hfills⟩ := h (front ++ before) rest (by rw [hsplit, List.append_assoc])
  rcases List.eq_nil_or_concat' before with rfl | ⟨init, op, rfl⟩
  · exact absurd (by rw [hsplit]; rfl) hops
  · rw [← List.append_assoc] at hfirst
    obtain ⟨rfl, hop⟩ := List.append_inj' hfirst rfl
    rw [after_append] at hfills
    exact ⟨init, a, congrArg (init ++ ·) hop, hfills⟩

/-- **Prompt operations without early takes are those of feeding the batch.** -/
theorem eq_feed (b : Batch α) (ops : List (Op α)) (hprompt : b.Prompt ops)
    (hearly : b.NoEarlyTake ops) : ops = b.feed (pushed ops) := by
  match ops with
  | [] => rfl
  | .take :: ops =>
    obtain ⟨first, a, hfirst, -⟩ := hearly [] ops rfl
    exact absurd hfirst (by simp)
  | .push a :: ops =>
    rw [pushed, feed]
    split
    · next hfills =>
      -- the push and the take behind it are one step of feeding
      obtain ⟨ops, rfl⟩ := List.head?_eq_some_iff.mp (hprompt [] a ops rfl hfills)
      have hhead := NoEarlyTake.head?_ne [.push a] hearly nofun
      have htail := eq_feed _ ops hprompt.tail.tail
        (NoEarlyTake.drop [.push a, .take] hearly hhead)
      rw [pushed]
      exact congrArg (.push a :: .take :: ·) htail
    · next hno =>
      have hhead := NoEarlyTake.head?_ne [] hearly fun a' ha' => Op.push.inj ha' ▸ hno
      have htail := eq_feed _ ops hprompt.tail (NoEarlyTake.drop [.push a] hearly hhead)
      exact congrArg (.push a :: ·) htail

/-- **Feeding a batch hands out the full chunks** of what waits and what is pushed. -/
theorem handedOut_feed (as : List α) (h : b.size < b.quota) :
    b.handedOut (b.feed as) = fullChunks b.quota (b.items.toList ++ as) := by
  induction as generalizing b with
  | nil =>
    rw [feed, handedOut, List.append_nil, fullChunks_of_lt h]
  | cons a as ih =>
    have hsplit : b.items.toList ++ a :: as = (b.push a).items.toList ++ as := by
      rw [toList_push, List.append_assoc, List.singleton_append]
    rw [feed, hsplit]
    split
    · next hfills =>
      -- the pushed item completes the first chunk
      have hlength : (b.push a).items.toList.length = b.quota := size_push_of_fills h hfills
      have hrest := ih (b := (b.push a).take.2) b.quota_pos
      rw [handedOut, handedOut, fullChunks_append b.quota_pos hlength]
      exact congrArg ((b.push a).items.toList :: ·) hrest
    · next hno =>
      rw [handedOut]
      exact ih (size_push_of_not hno)

/-- Behind the full chunks the rest waits. -/
theorem after_feed (as : List α) (h : b.size < b.quota) : b.after (b.feed as) =
    { b with items := (leftover b.quota (b.items.toList ++ as)).toArray } := by
  -- nothing is lost, on either side of what the takes hand out
  have hall := flatten_handedOut_append b (b.feed as)
  rw [handedOut_feed as h, pushed_feed] at hall
  have hchunks := flatten_fullChunks_append_leftover b.quota (b.items.toList ++ as)
  have hitems := List.append_cancel_left (hall.trans hchunks.symm)
  rw [← hitems, ← capacity_after b (b.feed as)]

end Feed

/-! ## New batches -/

/-- A new batch of some capacity. -/
def ofCapacity (c : Nat) : Batch α := { capacity := c }

theorem size_ofCapacity_lt (c : Nat) :
    (ofCapacity c : Batch α).size < (ofCapacity c : Batch α).quota :=
  quota_pos _

theorem poised_ofCapacity (c : Nat) (ops : List (Op α)) : (ofCapacity c).Poised ops :=
  ⟨Nat.zero_le _, fun heq => absurd heq (Nat.ne_of_lt (size_ofCapacity_lt c))⟩

/-- What a new batch of some capacity does under any operations. -/
structure Conserves (c : Nat) (ops : List (Op α)) : Prop where
  /-- What was taken and what still waits is what was pushed, in order. -/
  items : ((ofCapacity c).handedOut ops).flatten ++ ((ofCapacity c).after ops).items.toList =
    pushed ops
  /-- The next push answers whether as many items wait behind it as the capacity says. -/
  answer : ∀ a, ((ofCapacity c).after ops).fills a = true ↔
    c ≤ ((ofCapacity c).after (ops ++ [.push a])).size
  emptied : ((ofCapacity c).after (ops ++ [.take])).isEmpty = true

/-- What a new batch of some capacity does if it is always taken when a push fills it. -/
structure KeepsQuota (c : Nat) (ops : List (Op α)) : Prop where
  bounded : ∀ before, before <+: ops → ((ofCapacity c).after before).size ≤ max c 1
  /-- The take behind a push that fills the batch hands out as many items as the quota says. -/
  whole : ∀ before a rest, ops = before ++ .push a :: .take :: rest →
    ((ofCapacity c).after before).fills a = true →
    ((ofCapacity c).after (before ++ [.push a])).take.1.length = max c 1
  /-- Without other takes there were as many as the quota goes into the number of pushes. -/
  counted : (ofCapacity c).NoEarlyTake ops →
    ((ofCapacity c).handedOut ops).length = (pushed ops).length / max c 1

theorem conserves (c : Nat) (ops : List (Op α)) : Conserves c ops where
  items := flatten_handedOut_append (ofCapacity c) ops
  answer a := by
    rw [after_append, fills_iff, capacity_after]
    exact Iff.of_eq (congrArg (c ≤ ·) (size_push _ a).symm)
  emptied := by
    rw [after_append]
    rfl

theorem keepsQuota {c : Nat} {ops : List (Op α)} (h : (ofCapacity c).Prompt ops) :
    KeepsQuota c ops where
  bounded before hbefore := by
    obtain ⟨rest, rfl⟩ := hbefore
    have hle := ((poised_ofCapacity c (before ++ rest)).after h).1
    rwa [quota_after] at hle
  whole before a rest hsplit hfills := by
    subst hsplit
    have hroom := ((poised_ofCapacity c _).after h).lt_quota
    have hsize := size_push_of_fills hroom hfills
    rw [quota_after] at hsize
    rw [after_append]
    exact hsize
  counted hearly := by
    rw [eq_feed _ ops h hearly, handedOut_feed _ (size_ofCapacity_lt c), pushed_feed]
    exact length_fullChunks _ (quota_pos (ofCapacity c))

end Batch

/-! ## Routing feeds a batch -/

namespace Run

open Batch

variable {σ : Type}

/-- Routing some issues does these operations to a new batch, and announces what they hand out; the
files of these are then in the index. -/
def Feeds (c : Collaborators σ) (period : LeakPeriod) (d : Desk) (issues : List Issue)
    (ops : List (Batch.Op Issue)) : Prop :=
  Traced.fold (routeIssue c period d) {} issues = do
    let handedOut := (ofCapacity changeBatchSize).handedOut ops
    let (counters, announced) ← announceChunks c d ({}, 0) handedOut
    pure { index := ({} : FileIndex d.tree).after (handedOut.flatten.map (·.component))
           rollup := ({} : Rollup).addAll (period.counted issues)
           batch := (ofCapacity changeBatchSize).after ops
           counters, announced }

theorem feeds_changed (c : Collaborators σ) (period : LeakPeriod) (d : Desk)
    (issues : List Issue) :
    Feeds c period d issues ((ofCapacity changeBatchSize).feed (period.changed issues)) := by
  have hroom := size_ofCapacity_lt (α := Issue) changeBatchSize
  rw [Feeds, fold_routeIssue_start, handedOut_feed _ hroom, after_feed _ hroom]
  rfl

end Run

/-- **A batch neither loses nor overfills**, whatever its capacity. What its takes hand out and what
still waits is what was pushed; and if it is taken whenever a push fills it, it keeps to its quota.
Routing does take it so: it pushes the changed issues, and takes the batch behind those that fill it
and at no other time. -/
theorem Batch.conserves_and_keepsQuota {α : Type} (c : Nat) (ops : List (Batch.Op α)) :
    Batch.Conserves c ops ∧ ((Batch.ofCapacity c).Prompt ops → Batch.KeepsQuota c ops) ∧
      ∀ {σ : Type} (collaborators : Collaborators σ) (period : LeakPeriod) (d : Run.Desk)
        (issues : List Issue), ∃ fed, Run.Feeds collaborators period d issues fed ∧
          (Batch.ofCapacity changeBatchSize).Prompt fed ∧
          (Batch.ofCapacity changeBatchSize).NoEarlyTake fed ∧
          Batch.pushed fed = period.changed issues :=
  ⟨Batch.conserves c ops, Batch.keepsQuota, fun collaborators period d issues =>
    ⟨_, Run.feeds_changed collaborators period d issues, Batch.prompt_feed _ _,
      Batch.noEarlyTake_feed _ _, Batch.pushed_feed _ _⟩⟩

theorem Batch.keepsQuota_sample :
    let ops : List (Batch.Op Nat) := [.push 1, .push 2, .take, .push 3, .push 4, .take, .push 5]
    (Batch.ofCapacity 2).Prompt ops ∧ (Batch.ofCapacity 2).NoEarlyTake ops ∧
      Batch.KeepsQuota 2 ops ∧ (Batch.ofCapacity 2).handedOut ops = [[1, 2], [3, 4]] := by
  intro ops
  have hfeed : (Batch.ofCapacity 2).feed [1, 2, 3, 4, 5] = ops := by decide
  have hprompt : (Batch.ofCapacity 2).Prompt ops := hfeed ▸ Batch.prompt_feed _ _
  have hearly : (Batch.ofCapacity 2).NoEarlyTake ops := hfeed ▸ Batch.noEarlyTake_feed _ _
  exact ⟨hprompt, hearly, (Batch.conserves_and_keepsQuota 2 ops).2.1 hprompt, by decide⟩

end IssueNotice
