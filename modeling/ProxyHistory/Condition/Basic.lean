import ProxyHistory.ContentType

/-!
# Conditions

A condition compares a field with an operand, or the length of a field with a number.
-/

namespace ProxyHistory

/-- How a condition compares the text of a field. -/
inductive Comparison
  | eq
  | ne
  /-- The field contains the operand. -/
  | like
  | gt
  | lt
  deriving DecidableEq, Repr

/-- How a condition compares the length of a field. -/
inductive LengthComparison
  | eq
  | ne
  | gt
  | lt
  | ge
  | le
  deriving DecidableEq, Repr

/-- What a field is compared with. -/
inductive Operand
  | text (value : Text)
  /-- The operand of a condition on a content type. -/
  | contentType (value : ContentType)
  deriving DecidableEq, Repr

/-- One condition of a query. -/
inductive Condition
  /-- The field under a lower-case key, compared with an operand. -/
  | standard (key : Text) (comparison : Comparison) (operand : Operand)
  /-- The number of characters of the field under a lower-case key, compared with the number that
  the digits of a literal stand for. -/
  | length (key : Text) (comparison : LengthComparison) (literal : Text)
  deriving DecidableEq, Repr

/-- The written form of a comparison. -/
def Comparison.symbol : Comparison → Text
  | .eq => "=".toList
  | .ne => "!=".toList
  | .like => "like".toList
  | .gt => ">".toList
  | .lt => "<".toList

/-- The written form of a comparison of lengths. -/
def LengthComparison.symbol : LengthComparison → Text
  | .eq => "=".toList
  | .ne => "!=".toList
  | .gt => ">".toList
  | .lt => "<".toList
  | .ge => ">=".toList
  | .le => "<=".toList

/-- The comparison with the given written form. -/
def Comparison.ofSymbol? (symbol : Text) : Option Comparison :=
  [.eq, .ne, .like, .gt, .lt].find? (·.symbol == symbol)

/-- The comparison of lengths with the given written form. -/
def LengthComparison.ofSymbol? (symbol : Text) : Option LengthComparison :=
  [.eq, .ne, .gt, .lt, .ge, .le].find? (·.symbol == symbol)

/-- The operand as text. -/
def Operand.toText : Operand → Text
  | .text value => value
  | .contentType value => value.token

/-- The key of the field that a condition looks at. -/
def Condition.key : Condition → Text
  | .standard key _ _ | .length key _ _ => key

end ProxyHistory
