/-!
# Batches

Changed issues are announced in batches: `Batch.push` says when a batch has reached its capacity,
and `Batch.take` hands out its items and starts anew.
-/

namespace IssueNotice

/-- Number of changed issues announced together. -/
def changeBatchSize : Nat := 1000

/-- Items waiting to be handled together, in the order in which they came. -/
structure Batch (α : Type) where
  capacity : Nat := changeBatchSize
  items : Array α := #[]

namespace Batch

variable {α : Type}

/-- Number of items waiting. -/
def size (b : Batch α) : Nat := b.items.size

/-- Whether nothing waits. -/
def isEmpty (b : Batch α) : Bool := b.items.isEmpty

/-- Whether as many items wait as the batch should hold. -/
def isFull (b : Batch α) : Bool := b.capacity ≤ b.size

/-- Adds an item at the end. -/
def push (b : Batch α) (a : α) : Batch α :=
  { b with items := b.items.push a }

/-- The items waiting, and the emptied batch. -/
def take (b : Batch α) : List α × Batch α :=
  (b.items.toList, { b with items := #[] })

end Batch

end IssueNotice
