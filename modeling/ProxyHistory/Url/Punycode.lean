import ProxyHistory.Text.Basic

/-!
# Punycode

The encoding of a label of any characters in the letters, digits and hyphens of ASCII. The ASCII
characters of the label come first. Then each other character is given by the way to it, counted
over all places for it and all characters up to it; a way is a number of digits whose thresholds
follow a bias that adapts to the ways before.
-/

namespace ProxyHistory.Punycode

/-- The number of digits. -/
def base : Nat := 36

/-- The first character that is not ASCII. -/
def firstCode : Nat := 0x80

/-- The bias at the start. -/
def firstBias : Nat := 72

/-- The bias after a way of the given length, and its number of steps of adaption. -/
def adaptBy : Nat → Nat → Nat → Nat
  | 0, steps, delta => steps + 36 * delta / (delta + 38)
  | fuel + 1, steps, delta =>
      if delta > 455 then adaptBy fuel (steps + base) (delta / 35)
      else steps + 36 * delta / (delta + 38)

/-- The bias after a way of the given length to a place among `places`. -/
def adapt (delta places : Nat) (first : Bool) : Nat :=
  let delta := if first then delta / 700 else delta / 2
  adaptBy delta 0 (delta + delta / places)

/-- The threshold of the digit at the given position, counted in multiples of the base. -/
def threshold (position bias : Nat) : Nat :=
  if position ≤ bias then 1 else min 26 (position - bias)

/-- A digit as a character. -/
def digit (value : Nat) : Char :=
  if value < 26 then Char.ofNat ('a'.toNat + value) else Char.ofNat ('0'.toNat + (value - 26))

/-- A character as a digit. -/
def digitValue? (c : Char) : Option Nat :=
  if 'a' ≤ c ∧ c ≤ 'z' then some (c.toNat - 'a'.toNat)
  else if 'A' ≤ c ∧ c ≤ 'Z' then some (c.toNat - 'A'.toNat)
  else if c.isDigit then some (c.toNat - '0'.toNat + 26)
  else none

/-- The digits of a number from the given position on. The first argument bounds their count. -/
def digits (bias : Nat) : Nat → Nat → Nat → Text
  | 0, _, _ => []
  | fuel + 1, position, number =>
      let limit := threshold position bias
      if number < limit then [digit number]
      else
        digit (limit + (number - limit) % (base - limit)) ::
          digits bias fuel (position + base) ((number - limit) / (base - limit))

/-- The state of an encoder: how far the way has come, the bias, and the number of characters that
have their place. -/
structure Progress where
  /-- The length of the way so far. -/
  delta : Nat
  /-- The bias of the next number. -/
  bias : Nat
  /-- The number of characters already encoded. -/
  placed : Nat

/-- Encode the occurrences of the character with the given code among all characters. -/
def encodeCode (code ascii : Nat) : Text → Progress → Progress × Text
  | [], progress => (progress, [])
  | c :: rest, progress =>
      if c.toNat < code then
        encodeCode code ascii rest { progress with delta := progress.delta + 1 }
      else if c.toNat = code then
        let number := digits progress.bias (progress.delta + 1) base progress.delta
        let bias := adapt progress.delta (progress.placed + 1) (progress.placed == ascii)
        let (progress, more) := encodeCode code ascii rest ⟨0, bias, progress.placed + 1⟩
        (progress, number ++ more)
      else
        encodeCode code ascii rest progress

/-- Encode the characters with the given codes, which increase, when all codes below `next` are
done. -/
def encodeCodes (label : Text) (ascii : Nat) : Nat → List Nat → Progress → Text
  | _, [], _ => []
  | next, code :: codes, progress =>
      let delta := progress.delta + (code - next) * (progress.placed + 1)
      let (progress, number) := encodeCode code ascii label { progress with delta }
      number ++
        encodeCodes label ascii (code + 1) codes { progress with delta := progress.delta + 1 }

/-- The codes without repetitions in increasing order. -/
def sortCodes (codes : List Nat) : List Nat :=
  (codes.mergeSort).eraseReps

/-- The encoded label. -/
def encode (label : Text) : Text :=
  let ascii := label.filter (·.toNat < firstCode)
  let codes := sortCodes ((label.map Char.toNat).filter (firstCode ≤ ·))
  let start : Text := if ascii.isEmpty then [] else ascii ++ ['-']
  start ++ encodeCodes label ascii.length firstCode codes ⟨0, firstBias, ascii.length⟩

/-- Read a number from the given position on: its value and the rest of the text. -/
def readNumber? (bias : Nat) : Nat → Nat → Nat → Text → Option (Nat × Text)
  | _, _, _, [] => none
  | position, weight, value, c :: rest =>
      match digitValue? c with
      | none => none
      | some digit =>
          let value := value + digit * weight
          let limit := threshold position bias
          if digit < limit then some (value, rest)
          else readNumber? bias (position + base) (weight * (base - limit)) value rest

/-- Put the characters that the rest of the text encodes into the label. The first argument bounds
their number. -/
def insertCodes? : Nat → Nat → Nat → Nat → Bool → Text → Text → Option Text
  | _, _, _, _, _, label, [] => some label
  | 0, _, _, _, _, _, _ :: _ => none
  | fuel + 1, code, place, bias, first, label, text =>
      match readNumber? bias base 1 0 text with
      | none => none
      | some (delta, rest) =>
          let places := label.length + 1
          let target := place + delta
          let code := code + target / places
          let place := target % places
          if code.isValidChar then
            let label := label.take place ++ Char.ofNat code :: label.drop place
            insertCodes? fuel code (place + 1) (adapt delta places first) false label rest
          else
            none

/-- The label that a text encodes. -/
def decode? (text : Text) : Option Text :=
  let (extended, ascii) := (text.reverse.takeWhile (· ≠ '-'), text.reverse.dropWhile (· ≠ '-'))
  match ascii with
  | [] | ['-'] => insertCodes? text.length firstCode 0 firstBias true [] text
  | _ :: ascii =>
      insertCodes? text.length firstCode 0 firstBias true ascii.reverse extended.reverse

end ProxyHistory.Punycode
