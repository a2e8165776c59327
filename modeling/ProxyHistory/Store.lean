import ProxyHistory.Selection

/-!
# The history store

The store holds the newest recorded transactions, as many as its capacity allows. Recording one more
drops the oldest.
-/

namespace ProxyHistory

/-- A bounded history. -/
structure Store where
  /-- The greatest number of transactions held. -/
  capacity : Nat
  /-- The transactions held, the oldest first. -/
  history : History
  /-- There is room for a transaction. -/
  capacity_pos : 0 < capacity
  /-- The capacity is kept to. -/
  length_le : history.length ≤ capacity

namespace Store

/-- An empty store. A capacity of zero counts as one. -/
def ofCapacity (capacity : Nat) : Store where
  capacity := max capacity 1
  history := []
  capacity_pos := by omega
  length_le := by simp

/-- Put a transaction at the end of a history, and drop the oldest if there is no room for it. -/
def push (capacity : Nat) (history : History) (transaction : Transaction) : History :=
  (if capacity ≤ history.length then history.tail else history) ++ [transaction]

theorem length_push_le {capacity : Nat} (capacity_pos : 0 < capacity) {history : History}
    (length_le : history.length ≤ capacity) (transaction : Transaction) :
    (push capacity history transaction).length ≤ capacity := by
  unfold push
  split <;> simp <;> omega

/-- Record one transaction. -/
def record (store : Store) (transaction : Transaction) : Store where
  capacity := store.capacity
  history := push store.capacity store.history transaction
  capacity_pos := store.capacity_pos
  length_le := length_push_le store.capacity_pos store.length_le transaction

/-- Record transactions in their order. -/
def recordAll (store : Store) (transactions : List Transaction) : Store :=
  transactions.foldl record store

/-- Drop all transactions. -/
def clear (store : Store) : Store where
  capacity := store.capacity
  history := []
  capacity_pos := store.capacity_pos
  length_le := by simp

/-- The number of transactions held. -/
def size (store : Store) : Nat :=
  store.history.length

/-- What can be asked of a store. -/
inductive Operation
  /-- Record transactions in their order. -/
  | record (transactions : List Transaction)
  /-- Drop all transactions. -/
  | clear
  /-- Give the transactions held. -/
  | snapshot
  /-- Count the transactions held. -/
  | size
  deriving DecidableEq, Repr

/-- What a store answers. -/
inductive Answer
  /-- A number of transactions. -/
  | count (number : Nat)
  /-- Transactions, the oldest first. -/
  | history (transactions : History)
  deriving DecidableEq, Repr

/-- Do what is asked. Recording gives the number of transactions recorded, whether or not there is
room for them, and clearing the number of those dropped. -/
def perform (store : Store) : Operation → Store × Answer
  | .record transactions => (store.recordAll transactions, .count transactions.length)
  | .clear => (store.clear, .count store.size)
  | .snapshot => (store, .history store.history)
  | .size => (store, .count store.size)

end Store

end ProxyHistory
