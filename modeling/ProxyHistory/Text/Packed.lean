import ProxyHistory.Text.Basic

/-!
# Packed tables

Tables of numbers written as rows of text: hexadecimal digits, with a blank between two numbers.
-/

namespace ProxyHistory.Text.Packed

/-- The value of a hexadecimal digit in upper case. -/
def digitValue (c : Char) : Nat :=
  if c.isDigit then c.toNat - '0'.toNat else c.toNat - 'A'.toNat + 10

/-- The numbers of a table. -/
def numbers (table : List String) : List Nat :=
  table.flatMap fun row =>
    (row.toList.splitOn ' ').map (·.foldl (fun number c => 16 * number + digitValue c) 0)

/-- Two numbers at a time. -/
def takePairs : List Nat → List (Nat × Nat)
  | a :: b :: rest => (a, b) :: takePairs rest
  | _ => []

/-- Three numbers at a time. -/
def takeTriples : List Nat → List (Nat × Nat × Nat)
  | a :: b :: c :: rest => (a, b, c) :: takeTriples rest
  | _ => []

/-- Four numbers at a time. -/
def takeQuadruples : List Nat → List (Nat × Nat × Nat × Nat)
  | a :: b :: c :: d :: rest => (a, b, c, d) :: takeQuadruples rest
  | _ => []

/-- A number at a time, with the numbers that belong to it. Their count stands in front of them. The
first argument bounds the number of groups. -/
def takeGroups : Nat → List Nat → List (Nat × List Nat)
  | fuel + 1, key :: count :: rest => (key, rest.take count) :: takeGroups fuel (rest.drop count)
  | _, _ => []

/-- A table of pairs. -/
def pairs (table : List String) : List (Nat × Nat) :=
  takePairs (numbers table)

/-- A table of triples. -/
def triples (table : List String) : List (Nat × Nat × Nat) :=
  takeTriples (numbers table)

/-- A table of quadruples. -/
def quadruples (table : List String) : List (Nat × Nat × Nat × Nat) :=
  takeQuadruples (numbers table)

/-- A table of numbers with further numbers. -/
def groups (table : List String) : List (Nat × List Nat) :=
  let all := numbers table
  takeGroups all.length all

end ProxyHistory.Text.Packed
