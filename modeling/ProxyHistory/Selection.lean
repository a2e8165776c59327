import ProxyHistory.Condition.Evaluation
import ProxyHistory.Condition.Parser

/-!
# Selection

Which transactions of a history a list of conditions selects: the newest first, of each request only
the newest one that satisfies all conditions, and no more than the limit.
-/

namespace ProxyHistory

/-- Recorded transactions, the oldest first. -/
abbrev History := List Transaction

namespace Selection

/-- Read conditions. If one of them fits no grammar there are none, since nothing satisfies it;
errors come before that. -/
def readConditions (fragments : List Text) : Except QueryError (Option (List Condition)) :=
  (fragments.mapM Condition.parse).map fun conditions => conditions.mapM id

/-- Whether a transaction satisfies all conditions. -/
def acceptsAll (registry : FieldRegistry) (conditions : List Condition)
    (transaction : Transaction) : Bool :=
  conditions.all (·.accepts registry transaction)

/-- Go through transactions and keep those that are accepted and whose request was not seen, here or
before, until as many are kept as there is room for. Without a number there is always room. -/
def collect (accepts : Transaction → Bool) :
    Option Nat → List Digest → List Transaction → List Transaction
  | _, _, [] => []
  | room?, seen, transaction :: rest =>
      let fingerprint := transaction.fingerprint
      if room? = some 0 then
        []
      else if !accepts transaction then
        collect accepts room? seen rest
      else if fingerprint ∈ seen then
        collect accepts room? seen rest
      else
        transaction :: collect accepts (room?.map (· - 1)) (fingerprint :: seen) rest

/-- Cut a list to a limit, where zero is no limit. -/
def limitTo {α : Type} (limit : Nat) (items : List α) : List α :=
  if limit = 0 then items else items.take limit

/-- The transactions that the conditions select. Without conditions nothing is left out as a
repetition. -/
def select (registry : FieldRegistry) (history : History) (fragments : List Text) (limit : Nat) :
    Except QueryError (List Transaction) :=
  if fragments.isEmpty then
    .ok (limitTo limit history.reverse)
  else
    (readConditions fragments).map fun
      | none => []
      | some conditions =>
          let room? := if limit = 0 then none else some limit
          collect (acceptsAll registry conditions) room? [] history.reverse

end Selection

end ProxyHistory
