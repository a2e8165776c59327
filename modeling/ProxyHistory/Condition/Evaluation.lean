import ProxyHistory.Condition.Basic
import ProxyHistory.FieldRegistry

/-!
# Evaluating conditions

Whether a transaction satisfies a condition. Content types are compared with content types for
equality; everything else is compared as text, in the order of code points.
-/

namespace ProxyHistory

/-- Whether a text compares with an operand. -/
def Comparison.holds (comparison : Comparison) (text operand : Text) : Bool :=
  match comparison with
  | .eq => text == operand
  | .ne => text != operand
  | .like => Text.includes text operand
  | .gt => operand < text
  | .lt => text < operand

/-- Whether a length compares with an expected one. -/
def LengthComparison.holds (comparison : LengthComparison) (length expected : Nat) : Bool :=
  match comparison with
  | .eq => length == expected
  | .ne => length != expected
  | .gt => expected < length
  | .lt => length < expected
  | .ge => expected ≤ length
  | .le => length ≤ expected

namespace Condition

/-- Whether a value, which has the given text, compares with an operand. -/
def holdsStandard (comparison : Comparison) (operand : Operand) (value : Value) (text : Text) :
    Bool :=
  match comparison, operand, value with
  | .eq, .contentType expected, .contentType actual => actual == expected
  | .ne, .contentType expected, .contentType actual => actual != expected
  | _, _, _ => comparison.holds text operand.toText

/-- Whether the number of characters of a text compares with a literal. A literal that is no number
of 64 bits compares with nothing. -/
def holdsLength (comparison : LengthComparison) (literal text : Text) : Bool :=
  match Text.natural? (Nat.pow 2 64) literal with
  | some expected => comparison.holds text.length expected
  | none => false

/-- Whether a value satisfies a condition. An absent value satisfies none. -/
def acceptsValue (condition : Condition) (value : Value) : Bool :=
  match value.render? with
  | none => false
  | some text =>
      match condition with
      | .standard _ comparison operand => holdsStandard comparison operand value text
      | .length _ comparison literal => holdsLength comparison literal text

/-- Whether a transaction satisfies a condition. None satisfies a condition on an unknown field. -/
def accepts (registry : FieldRegistry) (condition : Condition) (transaction : Transaction) : Bool :=
  match registry.extract? condition.key transaction with
  | none => false
  | some value => condition.acceptsValue value

end Condition

end ProxyHistory
