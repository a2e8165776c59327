import ProxyHistory.Text.Basic

/-!
# Query errors

Why a query is refused. None of the causes depends on the recorded history.
-/

namespace ProxyHistory

/-- What is wrong with the clauses of a query. -/
inductive Malformation
  | selectAfterFrom
  | missingSelectOrFrom
  | noFields
  | missingSource
  | missingConditions
  deriving DecidableEq, Repr

/-- The two grammars of a condition. -/
inductive Grammar
  | standard
  | length
  deriving DecidableEq, Repr

/-- Why a query or one of its conditions is refused. -/
inductive QueryError
  | malformed (reason : Malformation)
  /-- An operator, as it was written, that the grammar of its condition does not have. -/
  | unsupportedOperator (operator : Text) (grammar : Grammar)
  /-- The operand of a content type condition names no class that can be asked for. -/
  | unsupportedContentType (operand : Text)
  deriving DecidableEq, Repr

/-- The cause in words. -/
def Malformation.message : Malformation → Text
  | .selectAfterFrom => "SELECT must come before FROM".toList
  | .missingSelectOrFrom => "missing SELECT or FROM clause".toList
  | .noFields => "no fields selected".toList
  | .missingSource => "missing source after FROM".toList
  | .missingConditions => "a WHERE clause is required".toList

/-- The name of a grammar. -/
def Grammar.name : Grammar → Text
  | .standard => "standard".toList
  | .length => "length".toList

/-- The error in words. -/
def QueryError.message : QueryError → Text
  | .malformed reason => "Malformed query: ".toList ++ reason.message
  | .unsupportedOperator operator grammar =>
      "Unsupported operator '".toList ++ operator ++ "' in ".toList ++ grammar.name ++
        " condition".toList
  | .unsupportedContentType operand =>
      "Unsupported content type '".toList ++ operand ++
        "' (expected a json or xml variant)".toList

end ProxyHistory
