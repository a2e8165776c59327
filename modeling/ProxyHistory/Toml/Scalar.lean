import ProxyHistory.Text.Numeral
import ProxyHistory.Toml.Basic
import ProxyHistory.Toml.Quoted

/-!
# Numbers, dates and times in TOML

Numbers may have underscores between their digits. Integers have 64 bits. Days are those of the
calendar, and a minute may have a leap second.
-/

namespace ProxyHistory.Toml

/-- The digits in front that follow a digit, each with at most one underscore before it. -/
def moreDigits (isDigit : Char → Bool) : Text → Text × Text
  | '_' :: c :: rest =>
      if isDigit c then
        let (digits, rest) := moreDigits isDigit rest
        (c :: digits, rest)
      else
        ([], '_' :: c :: rest)
  | c :: rest =>
      if isDigit c then
        let (digits, rest) := moreDigits isDigit rest
        (c :: digits, rest)
      else
        ([], c :: rest)
  | [] => ([], [])

/-- The digits in front, at least one, without the underscores between them. -/
def readDigits? (isDigit : Char → Bool) : Text → Option (Text × Text)
  | [] => none
  | c :: rest =>
      if isDigit c then
        let (digits, rest) := moreDigits isDigit rest
        some (c :: digits, rest)
      else
        none

/-- The sign in front, and whether it is negative. -/
def readSign : Text → Bool × Text
  | '-' :: rest => (true, rest)
  | '+' :: rest => (false, rest)
  | text => (false, text)

/-- The digits of a whole number: a single zero, or digits that do not start with one. -/
def readWhole? : Text → Option (Text × Text)
  | '0' :: rest => some (['0'], rest)
  | text => readDigits? Char.isDigit text

/-- The number that digits stand for in a base of up to sixteen. -/
def numberOf (base : Nat) (digits : Text) : Nat :=
  digits.foldl (fun number c => base * number + (hexValue? c).getD 0) 0

/-- Whether a character is a digit in a base of up to sixteen. -/
def isDigitIn (base : Nat) (c : Char) : Bool :=
  (hexValue? c).any (· < base)

/-- The digits of an integer in the given base, after its mark. -/
def readInBase? (base : Nat) (text : Text) : Option (Toml × Text) := do
  let (digits, rest) ← readDigits? (isDigitIn base) text
  let number := numberOf base digits
  if Nat.pow 2 63 ≤ number then none else some (.integer number, rest)

/-- An integer in front. -/
def readInteger? : Text → Option (Toml × Text)
  | '0' :: 'x' :: rest => readInBase? 16 rest
  | '0' :: 'o' :: rest => readInBase? 8 rest
  | '0' :: 'b' :: rest => readInBase? 2 rest
  | text => do
      let (negative, text) := readSign text
      let (digits, rest) ← readWhole? text
      let number := numberOf 10 digits
      let value : Int := if negative then -number else number
      let bound : Int := Nat.pow 2 63
      if value < -bound ∨ bound ≤ value then none else some (.integer value, rest)

/-- The digits after the point, if there is one. -/
def readFraction? : Text → Option (Text × Text)
  | '.' :: rest => readDigits? Char.isDigit rest
  | text => some ([], text)

/-- The sign and the digits of the exponent, if there is one. -/
def readExponent? (text : Text) : Option (Option (Bool × Text) × Text) :=
  match text with
  | 'e' :: rest | 'E' :: rest => do
      let (negative, rest) := readSign rest
      let (digits, rest) ← readDigits? Char.isDigit rest
      return (some (negative, digits), rest)
  | _ => some (none, text)

/-- Whether digits times a power of ten are too large for a floating point number: whether they
reach the middle between the largest one and the next power of two. -/
def overflows (digits : Text) (exponent : Int) : Bool :=
  let number := numberOf 10 digits
  let leading := (Nat.toDigits 10 number).length + exponent
  if number = 0 ∨ leading < 300 then false
  else if 310 < leading then true
  else
    let bound := Nat.pow 2 1024 - Nat.pow 2 970
    match exponent with
    | .ofNat power => bound ≤ number * Nat.pow 10 power
    | .negSucc power => bound * Nat.pow 10 (power + 1) ≤ number

/-- A number with a fraction or an exponent, infinity, or no number. -/
def readReal? (text : Text) : Option (Toml × Text) := do
  let (negative, unsigned) := readSign text
  let written (rest : Text) : Toml := .real (text.take (text.length - rest.length))
  match unsigned with
  | 'i' :: 'n' :: 'f' :: rest => return (written rest, rest)
  | 'n' :: 'a' :: 'n' :: rest => return (written rest, rest)
  | _ =>
      let (whole, rest) ← readWhole? unsigned
      let (fraction, rest) ← readFraction? rest
      let (exponent?, rest) ← readExponent? rest
      let exponent : Int := match exponent? with
        | none => 0
        | some (true, digits) => -(numberOf 10 digits : Int)
        | some (false, digits) => numberOf 10 digits
      if fraction.isEmpty ∧ exponent?.isNone then none
      else if !negative ∧ overflows (whole ++ fraction) (exponent - fraction.length) then none
      else return (written rest, rest)

/-- The number of so many decimal digits, if it lies between two bounds. -/
def readPart? (count low high : Nat) (text : Text) : Option (Nat × Text) :=
  let digits := text.take count
  let number := numberOf 10 digits
  if digits.length = count ∧ digits.all Char.isDigit ∧ low ≤ number ∧ number ≤ high then
    some (number, text.drop count)
  else
    none

/-- What follows a character in front. -/
def skip? (mark : Char) : Text → Option Text
  | [] => none
  | c :: rest => if c = mark then some rest else none

/-- The number of days of a month. -/
def daysOf (year month : Nat) : Nat :=
  if month = 2 then
    if year % 4 = 0 ∧ (year % 100 ≠ 0 ∨ year % 400 = 0) then 29 else 28
  else if month = 4 ∨ month = 6 ∨ month = 9 ∨ month = 11 then 30
  else 31

/-- What follows a date in front. -/
def skipDate? (text : Text) : Option Text := do
  let (year, rest) ← readPart? 4 0 9999 text
  let (month, rest) ← readPart? 2 1 12 (← skip? '-' rest)
  let (_, rest) ← readPart? 2 1 (daysOf year month) (← skip? '-' rest)
  return rest

/-- What follows a time in front. -/
def skipTime? (text : Text) : Option Text := do
  let (_, rest) ← readPart? 2 0 23 text
  let (_, rest) ← readPart? 2 0 59 (← skip? ':' rest)
  let (_, rest) ← readPart? 2 0 60 (← skip? ':' rest)
  match rest with
  | '.' :: c :: more => if c.isDigit then return more.dropWhile Char.isDigit else none
  | '.' :: [] => none
  | _ => return rest

/-- What follows the difference from universal time in front, if there is one. -/
def skipOffset? : Text → Option Text
  | 'Z' :: rest | 'z' :: rest => some rest
  | '+' :: rest | '-' :: rest => do
      let (_, rest) ← readPart? 2 0 23 rest
      let (_, rest) ← readPart? 2 0 59 (← skip? ':' rest)
      return rest
  | text => some text

/-- What follows a date, a time, or both in front. -/
def skipMoment? (text : Text) : Option Text :=
  match skipDate? text with
  | none => skipTime? text
  | some rest =>
      match rest with
      | c :: more =>
          if c = 'T' ∨ c = 't' ∨ c = ' ' then ((skipTime? more).bind skipOffset?).or (some rest)
          else some rest
      | [] => some rest

/-- A date, a time, or both. -/
def readMoment? (text : Text) : Option (Toml × Text) := do
  let rest ← skipMoment? text
  return (.moment (text.take (text.length - rest.length)), rest)

/-- What follows a word in front. -/
def skipWord? (word text : Text) : Option Text :=
  if word.isPrefixOf text then some (text.drop word.length) else none

/-- A value without parts in front, which is no text. -/
def readScalar? (text : Text) : Option (Toml × Text) :=
  match skipWord? "true".toList text, skipWord? "false".toList text with
  | some rest, _ => some (.boolean true, rest)
  | _, some rest => some (.boolean false, rest)
  | _, _ => (readMoment? text).or ((readReal? text).or (readInteger? text))

end ProxyHistory.Toml
