import ProxyHistory.Client.Envelope
import ProxyHistory.Json.Printer
import ProxyHistory.Table
import ProxyHistory.Text.Case

/-!
# Reports

What the client prints of the rows that a hub returns: the rows as JSON, or a table with one line
for each row.
-/

namespace ProxyHistory.Client

/-- The greatest number of characters of a value in a cell. -/
def cellLimit : Nat := 120

/-- A text in one line: a line end becomes a space. -/
def flatten : Text → Text
  | '\r' :: '\n' :: rest => ' ' :: flatten rest
  | '\n' :: rest => ' ' :: flatten rest
  | c :: rest => c :: flatten rest
  | [] => []

/-- The text of a value in one line; nothing for null. -/
def flatText : Json → Text
  | .null => []
  | .string text => flatten text
  | value => value.compact

/-- The first characters of a text that is too long for a cell, with an ellipsis after them. -/
def shorten (text : Text) : Text :=
  if cellLimit < text.length then text.take cellLimit ++ ['…'] else text

/-- The cell of a value. -/
def cell (value : Json) : Text :=
  shorten (flatText value)

/-- The names of the members of an object. -/
def memberNames : Json → List Text
  | .object members => members.map (·.1)
  | _ => []

/-- The columns of a table: the fields asked for, or else the names in the rows, each once. -/
def columns (rows : List Json) (fields : List Text) : List Text :=
  if fields.isEmpty then (rows.flatMap memberNames).eraseDups else fields.map Text.lower

/-- The table of rows. -/
def renderTable (rows : List Json) (fields : List Text) : Text :=
  let columns := columns rows fields
  Table.render (columns :: rows.map fun row => columns.map fun column => cell (row.member column))

/-- What is printed of the data of an envelope. -/
def renderRows (envelope : Envelope) (fields : List Text) (asJson : Bool) : Text :=
  if asJson then
    envelope.data.pretty
  else
    match envelope.data.items?.getD [] with
    | [] => "No matching transactions.".toList
    | rows => renderTable rows fields

end ProxyHistory.Client
