import ProxyHistory.Json.Binary64

/-!
# Printing JSON

Two layouts of a value: compact, on one line without blanks, and pretty, with one item or member a
line, indented by two spaces for each level.
-/

namespace ProxyHistory.Json

/-- A hexadecimal digit in lower case. -/
def hexDigit (value : Nat) : Char :=
  Nat.digitChar value

/-- A character of a string in its written form. -/
def escape (c : Char) : Text :=
  if c = '"' then ['\\', '"']
  else if c = '\\' then ['\\', '\\']
  else if c = '\u0008' then ['\\', 'b']
  else if c = '\u000C' then ['\\', 'f']
  else if c = '\n' then ['\\', 'n']
  else if c = '\r' then ['\\', 'r']
  else if c = '\t' then ['\\', 't']
  else if c.toNat < 0x20 then
    ['\\', 'u', '0', '0', hexDigit (c.toNat / 16), hexDigit (c.toNat % 16)]
  else [c]

/-- A string in its written form. -/
def quote (text : Text) : Text :=
  '"' :: text.flatMap escape ++ ['"']

mutual

/-- The value on one line without blanks. -/
def compact : Json → Text
  | .null => "null".toList
  | .bool true => "true".toList
  | .bool false => "false".toList
  | .integer value => Text.ofInt value
  | .real value => value.render
  | .string value => quote value
  | .array items => '[' :: compactItems items ++ [']']
  | .object members => '\x7b' :: compactMembers members ++ ['\x7d']

/-- Items with commas between them. -/
def compactItems : List Json → Text
  | [] => []
  | [item] => compact item
  | item :: items => compact item ++ ',' :: compactItems items

/-- Members with commas between them. -/
def compactMembers : List (Text × Json) → Text
  | [] => []
  | [(name, value)] => quote name ++ ':' :: compact value
  | (name, value) :: members => quote name ++ ':' :: compact value ++ ',' :: compactMembers members

end

/-- The start of a line at the given level. -/
def indent (level : Nat) : Text :=
  '\n' :: List.replicate (2 * level) ' '

mutual

/-- The value at the given level, with a line for each item and member. -/
def prettyAt (level : Nat) : Json → Text
  | .array [] => "[]".toList
  | .array items => '[' :: prettyItems (level + 1) items ++ indent level ++ [']']
  | .object [] => ['\x7b', '\x7d']
  | .object members => '\x7b' :: prettyMembers (level + 1) members ++ indent level ++ ['\x7d']
  | .null => "null".toList
  | .bool true => "true".toList
  | .bool false => "false".toList
  | .integer value => Text.ofInt value
  | .real value => value.render
  | .string value => quote value

/-- Items on lines of their own. -/
def prettyItems (level : Nat) : List Json → Text
  | [] => []
  | [item] => indent level ++ prettyAt level item
  | item :: items => indent level ++ prettyAt level item ++ ',' :: prettyItems level items

/-- Members on lines of their own. -/
def prettyMembers (level : Nat) : List (Text × Json) → Text
  | [] => []
  | [(name, value)] => indent level ++ quote name ++ ": ".toList ++ prettyAt level value
  | (name, value) :: members =>
      indent level ++ quote name ++ ": ".toList ++ prettyAt level value ++
        ',' :: prettyMembers level members

end

/-- The value with a line for each item and member. -/
def pretty (value : Json) : Text :=
  prettyAt 0 value

end ProxyHistory.Json
