import ProxyHistory.ContentType
import ProxyHistory.Json.Basic
import ProxyHistory.Text.Numeral

/-!
# Field values

What a field of a transaction holds.
-/

namespace ProxyHistory

/-- The value of a field. -/
inductive Value
  | text (value : Text)
  | integer (value : Int)
  | contentType (value : ContentType)
  /-- The transaction has no such value, which is not the same as an empty text. -/
  | absent
  deriving DecidableEq, Repr

namespace Value

/-- The value as text, if it is not absent. -/
def render? : Value → Option Text
  | .text value => some value
  | .integer value => some (Text.ofInt value)
  | .contentType value => some value.token
  | .absent => none

/-- The value as JSON. -/
def toJson : Value → Json
  | .text value => .string value
  | .integer value => .integer value
  | .contentType value => .string value.token
  | .absent => .null

end Value

end ProxyHistory
