import ProxyHistory.Json.Reader

/-!
# Reading JSON records

A record is an object of which certain members are wanted, or an array of their values in order. It
is judged as it is read: text of the wrong shape in front of text that is no JSON counts as
misshapen, and the other way round as faulty.
-/

namespace ProxyHistory.Json

/-- The shape of a value that a record wants. -/
inductive Shape
  | string
  /-- A natural number below a bound. -/
  | natural (bound : Nat)
  | anything
  deriving DecidableEq, Repr

/-- A member of a record. -/
structure Field where
  /-- The name in an object. -/
  name : Text
  /-- The shape of the value. -/
  shape : Shape
  /-- Whether the member may be missing or null; it is null then. -/
  optional : Bool
  deriving DecidableEq, Repr

/-- Refuse a value of another shape. Its first token is still read. -/
def refuse {α : Type} (text : RawText) : Except ReadError α :=
  match skipSpace text with
  | some '[' :: _ | some '\x7b' :: _ => .error .misshapen
  | text => do
      let (_, _) ← readValueWith true none text
      .error .misshapen

/-- Read a value of the given shape, where values nest no deeper than `depth`. -/
def readShape (depth : Nat) : Shape → Reader Json
  | .string => fun text =>
      match skipSpace text with
      | some '"' :: rest => do
          let (value, rest) ← readString true rest
          return (.string value, rest)
      | _ => refuse text
  | .natural bound => fun text => do
      match readValue true 0 text with
      | .ok (.integer value, rest) =>
          if 0 ≤ value ∧ value < bound then return (.integer value, rest)
          else .error .misshapen
      | _ => refuse text
  | .anything => readValue true depth

/-- Read the value of a member. -/
def readField (depth : Nat) (field : Field) : Reader Json := fun text =>
  match skipSpace text with
  | some 'n' :: rest =>
      if field.optional then do
        let ((), rest) ← readWord "ull".toList rest
        return (.null, rest)
      else
        readShape depth field.shape text
  | _ => readShape depth field.shape text

/-- The values of the fields in order, from the members read for them. -/
def complete (members : Entries Json) : List Field → Except ReadError (List Json)
  | [] => .ok []
  | field :: fields => do
      let value ← match members.lookup field.name with
        | some value => pure value
        | none => if field.optional then pure .null else throw .misshapen
      return value :: (← complete members fields)

/-- Read the members of a record after its opening brace. Members that are not wanted are passed
over; a wanted one may not come twice. -/
def readRecordMembers (depth : Nat) (fields : List Field) :
    Nat → Bool → Entries Json → Reader (Entries Json)
  | 0, _, _, rest => faultAt .unfinishedObject rest
  | fuel + 1, first, members, text => do
      match ← readName true first text with
      | (none, rest) => return (members, rest)
      | (some name, rest) =>
          match fields.find? (·.name == name) with
          | some field =>
              if (members.lookup name).isSome then
                throw .misshapen
              let ((), rest) ← readColon rest
              let (value, rest) ← readField depth field rest
              readRecordMembers depth fields fuel false ((name, value) :: members) rest
          | none =>
              let ((), rest) ← readColon rest
              let (_, rest) ← readValue false rest.length rest
              readRecordMembers depth fields fuel false members rest

/-- The end of an array of which as many items have been read as are wanted. -/
def readArrayEnd (text : RawText) : Except ReadError RawText :=
  match skipSpace text with
  | [] => faultIn .unfinishedList []
  | some ']' :: rest => .ok rest
  | some ',' :: rest =>
      match skipSpace rest with
      | some ']' :: rest => faultIn .trailingComma (some ']' :: rest)
      | rest => faultIn .trailingCharacters rest
  | rest => faultIn .trailingCharacters rest

/-- Read the values of a record after its opening bracket. -/
def readRecordItems (depth : Nat) : Bool → List Field → Reader (List Json)
  | _, [], text => do
      let rest ← readArrayEnd text
      return ([], rest)
  | first, field :: fields, text => do
      match ← readSeparator first text with
      | (false, rest) =>
          let values ← complete [] (field :: fields)
          return (values, rest)
      | (true, rest) =>
          let (value, rest) ← readField depth field rest
          let (values, rest) ← readRecordItems depth false fields rest
          return (value :: values, rest)

/-- Read a record, and give the values of its fields in order. -/
def readRecord (depth : Nat) (fields : List Field) : Reader (List Json) := fun text =>
  match skipSpace text with
  | [] => faultIn .unfinishedValue []
  | some '[' :: rest => readRecordItems (depth - 1) true fields rest
  | some '\x7b' :: rest => do
      let (members, rest) ← readRecordMembers (depth - 1) fields (rest.length + 1) true [] rest
      let values ← complete members fields
      return (values, rest)
  | rest => refuse rest

/-- Read an array of records. -/
def readRecords (depth : Nat) (fields : List Field) : Reader (List (List Json)) := fun text =>
  match skipSpace text with
  | [] => faultIn .unfinishedValue []
  | some '[' :: rest => readItems (readRecord (depth - 1) fields) (rest.length + 1) true rest
  | rest => refuse rest

end ProxyHistory.Json
