import ProxyHistory.Projection
import ProxyHistory.Query.Basic
import ProxyHistory.Selection

/-!
# The query engine

An engine runs query texts against a history: it takes the query apart, selects transactions and
projects them to rows.
-/

namespace ProxyHistory

/-- What becomes of a query without conditions. -/
inductive WherePolicy
  /-- It is refused. -/
  | required
  /-- It matches every transaction. -/
  | matchAll
  deriving DecidableEq, Repr

/-- The known fields, and the policy for queries without conditions. -/
structure Engine where
  /-- The known fields. -/
  registry : FieldRegistry
  /-- The policy for queries without conditions. -/
  policy : WherePolicy

namespace Engine

/-- Take a query apart, and refuse it if the policy demands conditions that it does not have. -/
def prepare (engine : Engine) (text : Text) : Except QueryError Query := do
  let query ← Query.parse text
  if query.conditions.isEmpty ∧ engine.policy = .required then
    throw (.malformed .missingConditions)
  return query

/-- The rows of a query against a history. -/
def execute (engine : Engine) (text : Text) (history : History) : Except QueryError (List Row) := do
  let query ← engine.prepare text
  let transactions ← Selection.select engine.registry history query.conditions query.limit
  return Projection.project engine.registry transactions query.fields

end Engine

end ProxyHistory
