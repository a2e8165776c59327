import ProxyHistory.Engine
import ProxyHistory.Text.Utf8
import ProxyHistory.Toml.Reader

/-!
# Configuration

What can be set for a hub in a file: how many transactions it keeps, and whether queries need
conditions. A file that cannot be used as a whole sets nothing.
-/

namespace ProxyHistory

/-- The settings of a hub. -/
structure Config where
  /-- How many transactions are kept. -/
  capacity : Nat
  /-- Whether queries without conditions are refused. -/
  requireWhere : Bool
  deriving DecidableEq, Repr

namespace Config

/-- What holds when nothing is set. -/
def default : Config where
  capacity := 10000
  requireWhere := true

/-- The policy for queries without conditions. -/
def policy (config : Config) : WherePolicy :=
  if config.requireWhere then .required else .matchAll

/-- The value of the only setting of a section, if it is there: under its name in a table, or as the
first item of an array. None if the section is neither. -/
def setting? (name : Text) : Toml → Option (Option Toml)
  | .table _ members => some (members.lookup name)
  | .array items => some items.head?
  | .tables items => some (items.head?.map (.table .header))
  | .moment _ => some none
  | _ => none

/-- The value of a setting, read as `read?` says; `missing` if it or its section is not there. -/
def readSetting? {α : Type} (group name : String) (missing : α) (read? : Toml → Option α)
    (document : Toml.Members) : Option α :=
  match document.lookup group.toList with
  | none => some missing
  | some found =>
      match setting? name.toList found with
      | none => none
      | some none => some missing
      | some (some value) => read? value

/-- A natural number. -/
def natural? : Toml → Option Nat
  | .integer (.ofNat value) => some value
  | _ => none

/-- A truth value. -/
def boolean? : Toml → Option Bool
  | .boolean value => some value
  | _ => none

/-- The settings of a document. -/
def ofDocument? (document : Toml.Members) : Option Config := do
  return {
    capacity := ← readSetting? "server" "history_capacity" default.capacity natural? document
    requireWhere :=
      ← readSetting? "query" "require_where" default.requireWhere boolean? document }

/-- The settings of a file with the given bytes, if there is one. -/
def load (file? : Option (List UInt8)) : Config :=
  (file?.bind fun bytes => (Text.decode? bytes).bind Toml.parse? |>.bind ofDocument?).getD default

end Config

end ProxyHistory
