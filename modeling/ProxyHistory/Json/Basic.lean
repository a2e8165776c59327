import ProxyHistory.SortedMap

/-!
# JSON values

Values as they are exchanged between the hub and its clients. Objects list their members in order of
the names. A number is an integer that fits a machine word, or else a binary floating point number.
-/

namespace ProxyHistory

/-- A floating point number of 64 bits, given by its bits. -/
structure Binary64 where
  /-- The sign, the exponent and the fraction, from the highest bit on. -/
  bits : UInt64
  deriving DecidableEq, Repr

/-- A JSON value. -/
inductive Json
  | null
  | bool (value : Bool)
  | integer (value : Int)
  | real (value : Binary64)
  | string (value : Text)
  | array (items : List Json)
  | object (members : List (Text × Json))
  deriving Repr

namespace Json

/-- An object with the given members, sorted by name; of several under one name the last counts. -/
def ofMembers (members : Entries Json) : Json :=
  .object (members.foldl (fun sorted member => Entries.insert member.1 member.2 sorted) [])

/-- The member of an object under a name; null if there is none or if this is no object. -/
def member (name : Text) : Json → Json
  | .object members => (members.lookup name).getD .null
  | _ => .null

/-- The items of an array. -/
def items? : Json → Option (List Json)
  | .array items => some items
  | _ => none

end Json

end ProxyHistory
