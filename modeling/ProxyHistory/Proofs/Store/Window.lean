import Mathlib.Data.List.DropRight
import ProxyHistory.Store

/-!
# The store as a window on a log

A log keeps everything that was recorded since it was last cleared. A store holds the end of the
log, as much of it as the capacity allows, and it answers as the log would through that window.
-/

namespace ProxyHistory.Store

/-! ## The end of a list -/

section Ends

variable {α : Type} (older newer : List α) (bound : Nat)

theorem length_rtake : (older.rtake bound).length = min bound older.length := by
  rw [List.rtake, List.length_drop]
  omega

theorem rtake_eq_self {items : List α} (fits : items.length ≤ bound) : items.rtake bound = items := by
  rw [List.rtake, Nat.sub_eq_zero_of_le fits, List.drop_zero]

/-- What no longer fits a window cannot come back into it. -/
theorem rtake_append_rtake :
    (older.rtake bound ++ newer).rtake bound = (older ++ newer).rtake bound := by
  rcases Nat.le_total older.length bound with fits | exceeds
  · rw [rtake_eq_self bound fits]
  · have window_length : (older.rtake bound ++ newer).length - bound = newer.length := by
      rw [List.length_append, length_rtake]
      omega
    have log_length : (older ++ newer).length - bound = older.length - bound + newer.length := by
      rw [List.length_append]
      omega
    calc (older.rtake bound ++ newer).rtake bound
        = (older.drop (older.length - bound) ++ newer).drop newer.length := by
          rw [List.rtake, window_length, List.rtake]
      _ = ((older ++ newer).drop (older.length - bound)).drop newer.length := by
          rw [List.drop_append_of_le_length (Nat.sub_le older.length bound)]
      _ = (older ++ newer).rtake bound := by
          rw [List.drop_drop, List.rtake, log_length]

end Ends

/-! ## Recording -/

theorem push_eq_rtake {capacity : Nat} (capacity_pos : 0 < capacity) {history : History}
    (length_le : history.length ≤ capacity) (transaction : Transaction) :
    push capacity history transaction = (history ++ [transaction]).rtake capacity := by
  rw [push, List.rtake, List.length_append, List.length_singleton]
  split
  · have excess : history.length + 1 - capacity = 1 := by omega
    have nonempty : 1 ≤ history.length := by omega
    rw [excess, List.drop_append_of_le_length nonempty, List.drop_one]
  · have excess : history.length + 1 - capacity = 0 := by omega
    rw [excess, List.drop_zero]

@[simp]
theorem capacity_recordAll (store : Store) (transactions : List Transaction) :
    (store.recordAll transactions).capacity = store.capacity := by
  induction transactions generalizing store with
  | nil => rfl
  | cons transaction transactions induction => exact induction (store.record transaction)

theorem history_recordAll (store : Store) (transactions : List Transaction) :
    (store.recordAll transactions).history =
      (store.history ++ transactions).rtake store.capacity := by
  induction transactions generalizing store with
  | nil => rw [List.append_nil, rtake_eq_self _ store.length_le, recordAll, List.foldl_nil]
  | cons transaction transactions induction =>
      have recorded : (store.record transaction).history =
          (store.history ++ [transaction]).rtake store.capacity :=
        push_eq_rtake store.capacity_pos store.length_le transaction
      have later : ((store.record transaction).recordAll transactions).history =
          ((store.record transaction).history ++ transactions).rtake store.capacity :=
        induction (store.record transaction)
      rw [recordAll, List.foldl_cons, ← recordAll, later, recorded, rtake_append_rtake,
        List.append_assoc, List.singleton_append]

theorem recordAll_append (store : Store) (earlier later : List Transaction) :
    store.recordAll (earlier ++ later) = (store.recordAll earlier).recordAll later :=
  List.foldl_append

theorem size_recordAll (store : Store) (transactions : List Transaction) :
    (store.recordAll transactions).size =
      min store.capacity (store.size + transactions.length) := by
  rw [size, history_recordAll, length_rtake, List.length_append, size]

/-! ## Runs -/

/-- The store after some operations. -/
def run (store : Store) (operations : List Operation) : Store :=
  operations.foldl (fun store operation => (store.perform operation).1) store

/-- The answers to some operations. -/
def answers (store : Store) : List Operation → List Answer
  | [] => []
  | operation :: operations =>
      let (store, answer) := store.perform operation
      answer :: store.answers operations

/-- The transactions that an operation records. -/
def Operation.batch : Operation → List Transaction
  | .record transactions => transactions
  | .clear | .snapshot | .size => []

/-- All that operations have recorded since the last of them that clears. -/
def log (operations : List Operation) : List Transaction :=
  (operations.rtakeWhile (· ≠ .clear)).flatMap Operation.batch

/-- What a log answers if it is seen through a window. -/
def logAnswer (window : Nat) (log : List Transaction) : Operation → Answer
  | .record transactions => .count transactions.length
  | .clear | .size => .count (min window log.length)
  | .snapshot => .history (log.rtake window)

theorem log_clear (operations : List Operation) : log (operations ++ [.clear]) = [] := by
  rw [log, List.rtakeWhile_concat_neg _ _ _ (by simp), List.flatMap_nil]

theorem log_concat {operation : Operation} (keeps : operation ≠ .clear)
    (operations : List Operation) :
    log (operations ++ [operation]) = log operations ++ operation.batch := by
  rw [log, List.rtakeWhile_concat_pos _ _ _ (by simpa using keeps), List.flatMap_append,
    List.flatMap_singleton, log]

theorem run_concat (store : Store) (operations : List Operation) (operation : Operation) :
    store.run (operations ++ [operation]) = ((store.run operations).perform operation).1 := by
  rw [run, List.foldl_append, List.foldl_cons, List.foldl_nil, run]

@[simp]
theorem capacity_perform (store : Store) (operation : Operation) :
    (store.perform operation).1.capacity = store.capacity := by
  cases operation with
  | record transactions => exact capacity_recordAll store transactions
  | clear | snapshot | size => rfl

theorem capacity_run (store : Store) (operations : List Operation) :
    (store.run operations).capacity = store.capacity := by
  induction operations generalizing store with
  | nil => rfl
  | cons operation operations induction =>
      exact (induction (store.perform operation).1).trans (capacity_perform store operation)

theorem history_perform {store : Store} {operations : List Operation}
    (agrees : store.history = (log operations).rtake store.capacity) (operation : Operation) :
    (store.perform operation).1.history =
      (log (operations ++ [operation])).rtake store.capacity := by
  cases operation with
  | record transactions =>
      rw [log_concat (by simp)]
      exact (history_recordAll store transactions).trans
        (by rw [agrees, rtake_append_rtake, Operation.batch])
  | clear =>
      rw [log_clear, List.rtake_nil]
      rfl
  | snapshot | size =>
      rw [log_concat (by simp), Operation.batch, List.append_nil, ← agrees]
      rfl

theorem history_run (capacity : Nat) (operations : List Operation) :
    ((ofCapacity capacity).run operations).history =
      (log operations).rtake (max capacity 1) := by
  induction operations using List.reverseRecOn with
  | nil => exact (List.rtake_nil _).symm
  | append_singleton operations operation induction =>
      have same : ((ofCapacity capacity).run operations).capacity = max capacity 1 :=
        capacity_run _ operations
      rw [← same] at induction ⊢
      rw [run_concat, history_perform induction]

/-- A store that holds the end of the log answers as the log does through the window. -/
theorem answer_perform {store : Store} {log : List Transaction}
    (agrees : store.history = log.rtake store.capacity) (operation : Operation) :
    (store.perform operation).2 = logAnswer store.capacity log operation := by
  have count : store.size = min store.capacity log.length := by
    rw [size, agrees, length_rtake]
  cases operation with
  | record transactions => rfl
  | clear | size => exact congrArg Answer.count count
  | snapshot => exact congrArg Answer.history agrees

/-- The answer to an operation depends on what was done before it. -/
theorem getElem?_answers (store : Store) (before after : List Operation) (operation : Operation) :
    (store.answers (before ++ operation :: after))[before.length]? =
      some ((store.run before).perform operation).2 := by
  induction before generalizing store with
  | nil => rfl
  | cons first before induction => exact induction (store.perform first).1

/-- After each operation of a run the store holds the end of the log, as long as the capacity allows
and no longer, and each operation is answered as the log answers through that window. -/
theorem run_refines_log (capacity : Nat) (before after : List Operation) (operation : Operation) :
    ((ofCapacity capacity).answers (before ++ operation :: after))[before.length]? =
        some (logAnswer (max capacity 1) (log before) operation) ∧
      ((ofCapacity capacity).run (before ++ [operation])).history =
        (log (before ++ [operation])).rtake (max capacity 1) ∧
      ((ofCapacity capacity).run (before ++ [operation])).size =
        min (max capacity 1) (log (before ++ [operation])).length := by
  have same : ((ofCapacity capacity).run before).capacity = max capacity 1 := capacity_run _ before
  have agrees : ((ofCapacity capacity).run before).history =
      (log before).rtake ((ofCapacity capacity).run before).capacity := by
    rw [same, history_run]
  have held := history_run capacity (before ++ [operation])
  refine ⟨?_, held, ?_⟩
  · rw [getElem?_answers, answer_perform agrees, same]
  · rw [size, held, length_rtake]

/-- A batch that exceeds the capacity is counted in full and kept in part. -/
example (first second third : Transaction) :
    (ofCapacity 2).answers [.record [first, second, third], .snapshot, .clear, .size] =
      [.count 3, .history [second, third], .count 2, .count 0] := by
  rfl

end ProxyHistory.Store
