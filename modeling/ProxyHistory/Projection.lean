import ProxyHistory.FieldRegistry

/-!
# Projection

The rows of a result: for each transaction the values of the selected fields.
-/

namespace ProxyHistory

/-- Values under the names of their fields. -/
abbrev Row := SortedMap Value

/-- The row as JSON. -/
def Row.toJson (row : Row) : Json :=
  .object (row.entries.map fun (name, value) => (name, value.toJson))

namespace Projection

/-- The name that selects all fields. -/
def everything : Text := ['*']

/-- The names of the fields that a list selects. Unknown fields are left out. -/
def resolve (registry : FieldRegistry) (fields : List Text) : List Text :=
  fields.flatMap fun field =>
    let name := Text.lower (Text.trim field)
    if name = everything then registry.names
    else if registry.contains name then [name]
    else []

/-- The row of a transaction for resolved names. -/
def row (registry : FieldRegistry) (names : List Text) (transaction : Transaction) : Row :=
  .ofList (names.filterMap fun name =>
    (registry.extract? name transaction).map fun value => (name, value))

/-- The rows of transactions for selected fields. -/
def project (registry : FieldRegistry) (transactions : List Transaction) (fields : List Text) :
    List Row :=
  transactions.map (row registry (resolve registry fields))

end Projection

end ProxyHistory
