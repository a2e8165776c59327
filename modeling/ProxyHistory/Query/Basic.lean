import ProxyHistory.Query.Error
import ProxyHistory.Query.Keyword
import ProxyHistory.Text.Numeral

/-!
# Queries

A query selects fields from a source, under conditions and up to a limit. Its clauses are found by
their keywords: the first SELECT and the first FROM of the text, and the first WHERE and the first
LIMIT after that FROM, in either order.
-/

namespace ProxyHistory

/-- A query taken apart into its clauses. -/
structure Query where
  /-- The selected fields as written, at least one. -/
  fields : List Text
  /-- The name of the source. -/
  source : Text
  /-- The conditions as written, from left to right. -/
  conditions : List Text
  /-- The greatest number of rows wanted, or zero for all of them. -/
  limit : Nat
  deriving DecidableEq, Repr

namespace Query

def selectKeyword : Text := "SELECT".toList

def fromKeyword : Text := "FROM".toList

def whereKeyword : Text := "WHERE".toList

def limitKeyword : Text := "LIMIT".toList

/-- Where the clauses of a query text start. -/
structure Clauses where
  /-- The position of SELECT. -/
  selectAt : Nat
  /-- The position of FROM. -/
  fromAt : Nat
  /-- The position of WHERE, if there is one. -/
  whereAt? : Option Nat
  /-- The position of LIMIT, if there is one. -/
  limitAt? : Option Nat
  /-- The length of the text. -/
  length : Nat
  deriving DecidableEq, Repr

namespace Clauses

/-- Find the clauses of a text. -/
def locate (text : Text) : Except QueryError Clauses :=
  match (keywordPositions selectKeyword text).head?, (keywordPositions fromKeyword text).head? with
  | some selectAt, some fromAt =>
      if selectAt < fromAt then
        .ok {
          selectAt
          fromAt
          whereAt? := (keywordPositions whereKeyword text).find? (fromAt ≤ ·)
          limitAt? := (keywordPositions limitKeyword text).find? (fromAt ≤ ·)
          length := text.length }
      else
        .error (.malformed .selectAfterFrom)
  | _, _ => .error (.malformed .missingSelectOrFrom)

/-- Where a clause that starts at `position` ends: at the other clause if that comes later, or else
with the text. -/
def stopBefore (clauses : Clauses) (position : Nat) (other? : Option Nat) : Nat :=
  (other?.filter (position < ·)).getD clauses.length

/-- The selected fields, between SELECT and FROM. -/
def fieldSpan (clauses : Clauses) : Span where
  start := clauses.selectAt + selectKeyword.length
  stop := clauses.fromAt

/-- The source, from FROM up to the first of WHERE and LIMIT. -/
def sourceSpan (clauses : Clauses) : Span where
  start := clauses.fromAt + fromKeyword.length
  stop := min (clauses.whereAt?.getD clauses.length) (clauses.limitAt?.getD clauses.length)

/-- The conditions. -/
def conditionSpan? (clauses : Clauses) : Option Span :=
  clauses.whereAt?.map fun position =>
    ⟨position + whereKeyword.length, clauses.stopBefore position clauses.limitAt?⟩

/-- The limit. -/
def limitSpan? (clauses : Clauses) : Option Span :=
  clauses.limitAt?.map fun position =>
    ⟨position + limitKeyword.length, clauses.stopBefore position clauses.whereAt?⟩

end Clauses

/-- The fields of a list separated by commas, without the blanks around them; empty ones are left
out. -/
def readFields (list : Text) : List Text :=
  ((list.splitOn ',').map Text.trim).filter (!·.isEmpty)

/-- The number of rows that a limit asks for: a number above zero counts, one of zero or below asks
for all rows, and whatever is no integer of 64 bits asks for a single row. -/
def readLimit (literal : Text) : Nat :=
  match Text.integer? (Nat.pow 2 63) literal with
  | some limit => limit.toNat
  | none => 1

/-- Take a query text apart. -/
def parse (input : Text) : Except QueryError Query := do
  let text := Text.trim input
  let clauses ← Clauses.locate text
  let fields := readFields (clauses.fieldSpan.of text)
  if fields.isEmpty then
    throw (.malformed .noFields)
  let source := Text.trim (clauses.sourceSpan.of text)
  if source.isEmpty then
    throw (.malformed .missingSource)
  return {
    fields
    source
    conditions := (clauses.conditionSpan?.map fun span => fragments (span.of text)).getD []
    limit := (clauses.limitSpan?.map fun span => readLimit (Text.trim (span.of text))).getD 0 }

end Query

end ProxyHistory
