import ProxyHistory.SortedMap
import ProxyHistory.Text.Case
import ProxyHistory.Transaction
import ProxyHistory.Value

/-!
# The field registry

The registry says for each field how its value is taken from a transaction. The names of fields
count in any letter case.
-/

namespace ProxyHistory

/-- A way to take the value of a field from a transaction. -/
abbrev Extractor := Transaction → Value

/-- The known fields. -/
structure FieldRegistry where
  /-- The extractors under the lower-case names of their fields. -/
  extractors : SortedMap Extractor

namespace FieldRegistry

/-- The registry without fields. -/
def empty : FieldRegistry where
  extractors := .empty

/-- Register a field, in place of the one that had the name before. -/
def register (registry : FieldRegistry) (name : Text) (extractor : Extractor) : FieldRegistry where
  extractors := registry.extractors.insert (Text.lower name) extractor

/-- The extractor of a field. -/
def get? (registry : FieldRegistry) (name : Text) : Option Extractor :=
  registry.extractors.get? (Text.lower name)

/-- Whether a field is known. -/
def contains (registry : FieldRegistry) (name : Text) : Bool :=
  (registry.get? name).isSome

/-- The value of a field of a transaction; none if the field is not known. -/
def extract? (registry : FieldRegistry) (name : Text) (transaction : Transaction) : Option Value :=
  (registry.get? name).map (· transaction)

/-- The names of the fields in increasing order. -/
def names (registry : FieldRegistry) : List Text :=
  registry.extractors.names

/-- The value that is taken from the response of a transaction, if there is one. -/
def ofResponse (value : Response → Value) : Extractor := fun transaction =>
  (transaction.response?.map value).getD .absent

/-- The fields that are always there. -/
def builtinFields : List (String × Extractor) :=
  [("req", fun transaction => .text transaction.request),
    ("host", fun transaction => .text transaction.host),
    ("url", fun transaction => .text transaction.url),
    ("path", fun transaction => .text transaction.path),
    ("query", fun transaction => .text transaction.query),
    ("method", fun transaction => .text (Text.upper transaction.method)),
    ("req.content_type", fun transaction => .contentType transaction.requestContentType),
    ("req.body", fun transaction => .text transaction.requestBody),
    ("body", fun transaction => .text transaction.requestBody),
    ("resp", ofResponse fun response => .text response.raw),
    ("status_code", ofResponse fun response => .integer response.statusCode.toNat),
    ("resp.status_code", ofResponse fun response => .integer response.statusCode.toNat),
    ("resp.content_type", ofResponse fun response => .contentType response.contentType),
    ("resp.body", ofResponse fun response => .text response.body)]

/-- The registry of the fields that are always there. -/
def builtin : FieldRegistry :=
  builtinFields.foldl (fun registry (name, extractor) => registry.register name.toList extractor)
    empty

/-- A character of a name in a listing. What has no visible form of its own is given by its code. -/
def escape (c : Char) : Text :=
  if c = '\x00' then ['\\', '0']
  else if c = '\t' then ['\\', 't']
  else if c = '\r' then ['\\', 'r']
  else if c = '\n' then ['\\', 'n']
  else if c = '\\' then ['\\', '\\']
  else if c = '"' then ['\\', '"']
  else if Text.extendsGrapheme c || !Text.isPrintable c then
    "\\u\x7b".toList ++ Nat.toDigits 16 c.toNat ++ ['\x7d']
  else [c]

/-- The listing of the fields. -/
def describe (registry : FieldRegistry) : Text :=
  let quoted := registry.names.map fun name => '"' :: name.flatMap escape ++ ['"']
  "FieldRegistry \x7b fields: [".toList ++ List.intercalate ", ".toList quoted ++ "] \x7d".toList

end FieldRegistry

end ProxyHistory
