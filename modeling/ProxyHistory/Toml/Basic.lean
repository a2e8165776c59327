import ProxyHistory.Text.Basic

/-!
# TOML documents

The values of a document, and the rules by which headers and dotted keys add to its tables. No key
is given twice, and a table that has its definition is not defined again.
-/

namespace ProxyHistory

/-- How a table came to be, which decides how it may be added to. -/
inductive TableOrigin
  /-- It has a header of its own, or is the document. -/
  | header
  /-- The header of a table within it names it. -/
  | inner
  /-- A dotted key names it. -/
  | dottedKey
  /-- It was written out as a value. -/
  | inline
  deriving DecidableEq, Repr

/-- A value of a document. -/
inductive Toml
  | boolean (value : Bool)
  | integer (value : Int)
  /-- A number with a fraction or an exponent, infinity, or no number. -/
  | real (literal : Text)
  /-- A date, a time, or both. -/
  | moment (literal : Text)
  | string (value : Text)
  | array (items : List Toml)
  | table (origin : TableOrigin) (members : List (Text × Toml))
  /-- An array whose tables have a header each. -/
  | tables (items : List (List (Text × Toml)))
  deriving Repr

namespace Toml

/-- The keys and values of a table. -/
abbrev Members := List (Text × Toml)

/-- Give a key of a table a value, in place of the one that it had before. -/
def assign (key : Text) (value : Toml) : Members → Members
  | [] => [(key, value)]
  | (other, held) :: rest =>
      if other = key then (key, value) :: rest else (other, held) :: assign key value rest

/-- Change the table at the end of a path, which starts in a table with the given origin and
members. Tables that are missing on the way get the origin `missing`. None if the path leads through
something else than a table that may be added to. -/
def changeAt? (missing : TableOrigin) (change : TableOrigin → Members → Option Members)
    (origin : TableOrigin) : List Text → Members → Option Members
  | [], members => change origin members
  | key :: path, members =>
      match members.lookup key with
      | none => do
          let inside ← changeAt? missing change missing path []
          return assign key (.table missing inside) members
      | some (.table origin inside) =>
          if origin = .inline ∨ (missing = .dottedKey ∧ origin = .header) then
            none
          else do
            let inside ← changeAt? missing change origin path inside
            return assign key (.table origin inside) members
      | some (.tables items) => do
          let last ← items.getLast?
          let inside ← changeAt? missing change .header path last
          return assign key (.tables (items.dropLast ++ [inside])) members
      | some _ => none

/-- Give a new key of a table a value. -/
def assignNew? (key : Text) (value : Toml) (members : Members) : Option Members :=
  if (members.lookup key).isSome then none else some (members ++ [(key, value)])

/-- Give a dotted key a value, in a table with the given origin. Only a table that a dotted key
named may be added to by one. -/
def assignDotted? (path : List Text) (key : Text) (value : Toml) (origin : TableOrigin)
    (members : Members) : Option Members :=
  changeAt? .dottedKey
    (fun origin members =>
      if path.isEmpty ∨ origin = .dottedKey then assignNew? key value members else none)
    origin path members

/-- Define a table by a header. It may have been named by other headers before. -/
def defineTable? (path : List Text) (key : Text) (document : Members) : Option Members :=
  changeAt? .inner
    (fun _ members =>
      match members.lookup key with
      | none => some (assign key (.table .header []) members)
      | some (.table .inner inside) => some (assign key (.table .header inside) members)
      | some _ => none)
    .header path document

/-- Add a table to an array of tables by a header. -/
def appendTable? (path : List Text) (key : Text) (document : Members) : Option Members :=
  changeAt? .inner
    (fun _ members =>
      match members.lookup key with
      | none => some (assign key (.tables [[]]) members)
      | some (.tables items) => some (assign key (.tables (items ++ [[]])) members)
      | some _ => none)
    .header path document

/-- Give a dotted key a value in the table that was defined last. -/
def assignIn? (table path : List Text) (key : Text) (value : Toml) (document : Members) :
    Option Members :=
  changeAt? .inner (assignDotted? path key value) .header table document

end Toml

end ProxyHistory
