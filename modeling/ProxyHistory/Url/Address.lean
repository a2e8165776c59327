import ProxyHistory.Text.Numeral

/-!
# Numeric addresses

The two forms of an address in the place of a domain name: one to four numbers with dots between
them, and eight pieces of sixteen bits with colons between them.
-/

namespace ProxyHistory.Address

/-- The value of a digit in a base of up to sixteen. -/
def digitValue? (base : Nat) (c : Char) : Option Nat :=
  let value? :=
    if c.isDigit then some (c.toNat - '0'.toNat)
    else if 'a' ≤ c ∧ c ≤ 'f' then some (c.toNat - 'a'.toNat + 10)
    else if 'A' ≤ c ∧ c ≤ 'F' then some (c.toNat - 'A'.toNat + 10)
    else none
  value?.filter (· < base)

/-- The number that digits stand for in a base; nothing stands for zero. -/
def readDigits? (base : Nat) (digits : Text) : Option Nat :=
  (digits.mapM (digitValue? base)).map (·.foldl (fun number digit => base * number + digit) 0)

/-- A number of an address: hexadecimal after `0x`, octal after a zero, decimal otherwise. -/
def readNumber? : Text → Option Nat
  | [] => none
  | '0' :: 'x' :: digits | '0' :: 'X' :: digits => readDigits? 16 digits
  | '0' :: c :: digits => readDigits? 8 (c :: digits)
  | digits => readDigits? 10 digits

/-- The labels of a name, without the empty one after a final dot. -/
def labels (name : Text) : List Text :=
  let labels := name.splitOn '.'
  if 1 < labels.length ∧ labels.getLast? = some [] then labels.dropLast else labels

/-- Whether the last label is a number, so that the whole name has to be an address. -/
def endsInNumber (name : Text) : Bool :=
  match (labels name).getLast? with
  | none => false
  | some last => (!last.isEmpty && last.all Char.isDigit) || (readNumber? last).isSome

/-- The address of 32 bits that a name stands for: the last number fills what the others leave. -/
def readShort? (name : Text) : Option Nat := do
  let numbers ← (labels name).mapM readNumber?
  let last ← numbers.getLast?
  let others := numbers.dropLast
  if 3 < others.length || others.any (255 < ·) || Nat.pow 256 (4 - others.length) ≤ last then
    none
  else
    let high := others.foldl (fun value number => 256 * value + number) 0
    some (high * Nat.pow 256 (4 - others.length) + last)

/-- An address of 32 bits as four decimal numbers. -/
def writeShort (address : Nat) : Text :=
  List.intercalate ['.']
    ([0x1000000, 0x10000, 0x100, 1].map fun unit => Text.ofNat (address / unit % 256))

/-- Take up to `count` hexadecimal digits off the front. -/
def takeHex : Nat → Text → Text × Text
  | count + 1, c :: rest =>
      if (digitValue? 16 c).isSome then
        let (digits, rest) := takeHex count rest
        (c :: digits, rest)
      else
        ([], c :: rest)
  | _, text => ([], text)

/-- One of the four numbers of an embedded short address: no leading zero, and below 256. -/
def readOctet? (text : Text) : Option Nat :=
  match text with
  | '0' :: _ :: _ => none
  | _ => (Text.digits? text).filter (· < 256)

/-- The two pieces of an embedded short address. -/
def readEmbedded? (text : Text) : Option (List Nat) := do
  match ← (text.splitOn '.').mapM readOctet? with
  | [a, b, c, d] => some [a * 256 + b, c * 256 + d]
  | _ => none

/-- Where reading the pieces of a long address stands: the pieces so far, and how many of them came
before the gap, if there was one. -/
structure Pieces where
  /-- The pieces read so far. -/
  read : List Nat
  /-- The number of pieces before the gap. -/
  gap? : Option Nat

/-- Read the pieces of a long address up to the end. The first argument bounds their number. -/
def readPieces? : Nat → Pieces → Text → Option Pieces
  | _, pieces, [] => some pieces
  | 0, _, _ :: _ => none
  | fuel + 1, pieces, ':' :: rest =>
      if pieces.read.length < 8 ∧ pieces.gap?.isNone then
        readPieces? fuel { pieces with read := pieces.read ++ [0], gap? := some pieces.read.length }
          rest
      else
        none
  | fuel + 1, pieces, text =>
      if 8 ≤ pieces.read.length then
        none
      else
        let (digits, rest) := takeHex 4 text
        match readDigits? 16 digits, rest with
        | some piece, [] =>
            if digits.isEmpty then none else some { pieces with read := pieces.read ++ [piece] }
        | some _, '.' :: _ =>
            if digits.isEmpty || 6 < pieces.read.length then none
            else
              (readEmbedded? text).map fun embedded =>
                { pieces with read := pieces.read ++ embedded }
        | some piece, ':' :: more =>
            if digits.isEmpty || more.isEmpty then none
            else readPieces? fuel { pieces with read := pieces.read ++ [piece] } more
        | _, _ => none

/-- The eight pieces of a long address. A gap stands for one piece of zeros or more. -/
def readLong? (text : Text) : Option (List Nat) := do
  let pieces ← match text with
    | ':' :: ':' :: rest => readPieces? 9 ⟨[0], some 0⟩ rest
    | ':' :: _ => none
    | _ => readPieces? 9 ⟨[], none⟩ text
  match pieces.gap? with
  | some before =>
      if 8 < pieces.read.length then none
      else
        some (pieces.read.take before ++ List.replicate (8 - pieces.read.length) 0 ++
          pieces.read.drop before)
  | none => if pieces.read.length = 8 then some pieces.read else none

/-- The length of the run of zeros in front. -/
def zerosInFront (pieces : List Nat) : Nat :=
  (pieces.takeWhile (· == 0)).length

/-- The start and the length of the first longest run of zeros. -/
def longestZeros : List Nat → Nat × Nat
  | [] => (0, 0)
  | piece :: pieces =>
      let here := zerosInFront (piece :: pieces)
      let (start, length) := longestZeros pieces
      if length ≤ here then (0, here) else (start + 1, length)

/-- Pieces in hexadecimal digits with colons between them. -/
def writePieces (pieces : List Nat) : Text :=
  List.intercalate [':'] (pieces.map (Nat.toDigits 16))

/-- A long address, with a gap for its first longest run of at least two zeros. -/
def writeLong (pieces : List Nat) : Text :=
  let (start, length) := longestZeros pieces
  if length < 2 then
    writePieces pieces
  else
    writePieces (pieces.take start) ++ "::".toList ++ writePieces (pieces.drop (start + length))

end ProxyHistory.Address
