import ProxyHistory.Json.Binary64
import ProxyHistory.Text.Utf8

/-!
# Reading JSON

A reader takes a value off the front of a text, which may have gaps. The value nests to a fixed
depth. There is a strict way of reading, which gives the value, and a lenient way, which only passes
over text of the right form: there a number may be out of range, an escaped surrogate may stand
alone and a string may have gaps.
-/

namespace ProxyHistory.Json

/-- What is wrong with a text that is no JSON value. -/
inductive Fault
  | unfinishedList
  | unfinishedObject
  | unfinishedString
  | unfinishedValue
  | expectedColon
  | expectedListEnd
  | expectedObjectEnd
  | expectedIdentifier
  | expectedValue
  | invalidEscape
  | invalidNumber
  | numberOutOfRange
  | controlCharacter
  | expectedName
  | invalidUnicode
  | loneSurrogate
  | trailingComma
  | trailingCharacters
  | unfinishedEscape
  | tooDeep
  deriving DecidableEq, Repr

/-- The fault in words. -/
def Fault.message : Fault → Text
  | .unfinishedList => "EOF while parsing a list".toList
  | .unfinishedObject => "EOF while parsing an object".toList
  | .unfinishedString => "EOF while parsing a string".toList
  | .unfinishedValue => "EOF while parsing a value".toList
  | .expectedColon => "expected `:`".toList
  | .expectedListEnd => "expected `,` or `]`".toList
  | .expectedObjectEnd => "expected `,` or `\x7d`".toList
  | .expectedIdentifier => "expected ident".toList
  | .expectedValue => "expected value".toList
  | .invalidEscape => "invalid escape".toList
  | .invalidNumber => "invalid number".toList
  | .numberOutOfRange => "number out of range".toList
  | .controlCharacter =>
      "control character (\\u0000-\\u001F) found while parsing a string".toList
  | .expectedName => "key must be a string".toList
  | .invalidUnicode => "invalid unicode code point".toList
  | .loneSurrogate => "lone leading surrogate in hex escape".toList
  | .trailingComma => "trailing comma".toList
  | .trailingCharacters => "trailing characters".toList
  | .unfinishedEscape => "unexpected end of hex escape".toList
  | .tooDeep => "recursion limit exceeded".toList

/-- Why a text is not read. -/
inductive ReadError
  /-- The text is no JSON. The fault lies `ahead` bytes into the `rest` of the text. -/
  | faulty (fault : Fault) (rest : RawText) (ahead : Nat)
  /-- The text is JSON so far, but not of the shape that is wanted. -/
  | misshapen
  deriving DecidableEq, Repr

/-- A reader gives what it has read and the rest of the text. -/
abbrev Reader (α : Type) := RawText → Except ReadError (α × RawText)

/-- A fault between the characters read and the rest. -/
def faultAt {α : Type} (fault : Fault) (rest : RawText) : Except ReadError α :=
  .error (.faulty fault rest 0)

/-- A fault in the next character. -/
def faultIn {α : Type} (fault : Fault) (rest : RawText) : Except ReadError α :=
  .error (.faulty fault rest 1)

/-- The four characters that may stand between tokens. -/
def isSpace (c : Char) : Bool :=
  c == ' ' || c == '\n' || c == '\t' || c == '\r'

/-- Pass over the space in front. -/
def skipSpace (text : RawText) : RawText :=
  text.dropWhile fun c? => c?.any isSpace

/-- The value of a hexadecimal digit. -/
def hexValue? (c : Char) : Option Nat :=
  if c.isDigit then some (c.toNat - '0'.toNat)
  else if 'a' ≤ c ∧ c ≤ 'f' then some (c.toNat - 'a'.toNat + 10)
  else if 'A' ≤ c ∧ c ≤ 'F' then some (c.toNat - 'A'.toNat + 10)
  else none

/-- The value of four hexadecimal digits in front. -/
def readHex : Reader Nat
  | a :: b :: c :: d :: rest =>
      match a.bind hexValue?, b.bind hexValue?, c.bind hexValue?, d.bind hexValue? with
      | some a, some b, some c, some d => .ok (((a * 16 + b) * 16 + c) * 16 + d, rest)
      | _, _, _, _ =>
          if RawText.byteLength [a, b, c, d] = 4 then faultAt .invalidEscape rest
          else .error (.faulty .invalidEscape (a :: b :: c :: d :: rest) 4)
  | text =>
      if RawText.byteLength text < 4 then faultAt .unfinishedString []
      else .error (.faulty .invalidEscape text 4)

/-- The character of a Unicode escape, after its letter. A leading surrogate goes together with the
trailing one that is escaped next. -/
def readUnicodeEscape (strict : Bool) : Reader Char := fun text => do
  let (unit, rest) ← readHex text
  if !strict then
    return (Char.ofNat unit, rest)
  if 0xDC00 ≤ unit ∧ unit ≤ 0xDFFF then
    faultAt .loneSurrogate rest
  else if unit < 0xD800 ∨ 0xDBFF < unit then
    return (Char.ofNat unit, rest)
  else
    match rest with
    | [] => faultAt .unfinishedString []
    | some '\\' :: [] => faultAt .unfinishedString []
    | some '\\' :: some 'u' :: more =>
        let (second, rest) ← readHex more
        if second < 0xDC00 ∨ 0xDFFF < second then
          faultAt .loneSurrogate rest
        else
          return (Char.ofNat (0x10000 + (unit - 0xD800) * 0x400 + (second - 0xDC00)), rest)
    | some '\\' :: more => faultIn .unfinishedEscape more
    | more => faultIn .unfinishedEscape more

/-- The character of an escape, after its backslash. -/
def readEscape (strict : Bool) : Reader Char
  | [] => faultAt .unfinishedString []
  | none :: rest => faultIn .invalidEscape (none :: rest)
  | some c :: rest =>
      match c with
      | '"' | '\\' | '/' => .ok (c, rest)
      | 'b' => .ok ('\u0008', rest)
      | 'f' => .ok ('\u000C', rest)
      | 'n' => .ok ('\n', rest)
      | 'r' => .ok ('\r', rest)
      | 't' => .ok ('\t', rest)
      | 'u' => readUnicodeEscape strict rest
      | _ => faultIn .invalidEscape (some c :: rest)

/-- The characters of a string up to its closing quote, with its gaps. The first argument bounds
their number. -/
def readStringTail (strict : Bool) : Nat → Reader RawText
  | 0, rest => faultAt .unfinishedString rest
  | _ + 1, [] => faultAt .unfinishedString []
  | fuel + 1, none :: rest => do
      let (more, rest) ← readStringTail strict fuel rest
      return (none :: more, rest)
  | fuel + 1, some c :: rest =>
      if c = '"' then
        .ok ([], rest)
      else if c = '\\' then do
        let (escaped, rest) ← readEscape strict rest
        let (more, rest) ← readStringTail strict fuel rest
        return (some escaped :: more, rest)
      else if c.toNat < 0x20 then
        faultAt .controlCharacter rest
      else do
        let (more, rest) ← readStringTail strict fuel rest
        return (some c :: more, rest)

/-- The characters of a string after its opening quote. -/
def readString (strict : Bool) : Reader Text := fun text => do
  let (raw, rest) ← readStringTail strict (text.length + 1) text
  match raw.text? with
  | some text => return (text, rest)
  | none => if strict then faultAt .invalidUnicode rest else return (raw.lossy, rest)

/-- The rest of a word after its first letter. -/
def readWord (word : Text) : Reader Unit := fun text =>
  match word, text with
  | [], rest => .ok ((), rest)
  | _ :: _, [] => faultAt .unfinishedValue []
  | expected :: word, c :: rest =>
      if c = some expected then readWord word rest else faultIn .expectedIdentifier (c :: rest)

/-- The parts of a number after its sign. -/
structure Numeral where
  /-- The digits before the point. -/
  whole : Text
  /-- The digits after the point, if there is one. -/
  fraction? : Option Text
  /-- The sign and the digits of the exponent, if there is one. -/
  exponent? : Option (Bool × Text)
  deriving DecidableEq, Repr

/-- The digits in front. -/
def readDigits (text : RawText) : Text × RawText :=
  ((text.takeWhile fun c? => c?.any Char.isDigit).filterMap id,
    text.dropWhile fun c? => c?.any Char.isDigit)

/-- The digits before the point: a single zero, or digits that do not start with one. -/
def readWhole : Reader Text
  | [] => faultAt .unfinishedValue []
  | some '0' :: rest =>
      if rest.head?.any (·.any Char.isDigit) then faultIn .invalidNumber rest else .ok (['0'], rest)
  | c? :: rest =>
      if c?.any Char.isDigit then .ok (readDigits (c? :: rest))
      else faultIn .invalidNumber (c? :: rest)

/-- The digits after a point, at least one. -/
def readFraction (text : RawText) : Except ReadError (Text × RawText) :=
  match readDigits text with
  | ([], []) => faultIn .unfinishedValue []
  | ([], rest) => faultIn .invalidNumber rest
  | digits => .ok digits

/-- Whether the sign of an exponent, if there is one, is a minus sign. -/
def readSign : RawText → Bool × RawText
  | some '+' :: rest => (false, rest)
  | some '-' :: rest => (true, rest)
  | text => (false, text)

/-- The sign and the digits of an exponent after its letter. -/
def readExponent (text : RawText) : Except ReadError ((Bool × Text) × RawText) :=
  let (negative, text) := readSign text
  match readDigits text with
  | ([], []) => faultAt .unfinishedValue []
  | ([], rest) => faultIn .invalidNumber rest
  | (digits, rest) => .ok ((negative, digits), rest)

/-- A point and the digits after it, if there is one. -/
def readFraction? : Reader (Option Text)
  | some '.' :: after => do
      let (digits, rest) ← readFraction after
      return (some digits, rest)
  | rest => .ok (none, rest)

/-- An exponent with its letter, if there is one. -/
def readExponent? : Reader (Option (Bool × Text))
  | some 'e' :: after | some 'E' :: after => do
      let (exponent, rest) ← readExponent after
      return (some exponent, rest)
  | rest => .ok (none, rest)

/-- The parts of a number after its sign. -/
def readNumeral : Reader Numeral := fun text => do
  let (whole, rest) ← readWhole text
  let (fraction?, rest) ← readFraction? rest
  let (exponent?, rest) ← readExponent? rest
  return (⟨whole, fraction?, exponent?⟩, rest)

/-- The bound of the numbers that fit 64 bits. -/
def wordBound : Nat := Nat.pow 2 64

/-- The value of the longest run of digits in front that fits 64 bits, added to a value, and the
number of digits left. -/
def significand (value : Nat) : Text → Nat × Nat
  | [] => (value, 0)
  | c :: rest =>
      let next := 10 * value + (c.toNat - '0'.toNat)
      if next < wordBound then significand next rest else (value, rest.length + 1)

/-- The value of a number, if it is in range. Integers that fit 64 bits, with their sign if they are
negative, stay integers. -/
def Numeral.value? (negative : Bool) (numeral : Numeral) : Option Json :=
  let (whole, dropped) := significand 0 numeral.whole
  let (digits, shift) := match numeral.fraction? with
    | none => (whole, (dropped : Int))
    | some fraction =>
        let (all, left) := significand whole fraction
        (all, (dropped : Int) - (fraction.length - left))
  let real (exponent : Int) := (Binary64.scaled? negative digits exponent).map Json.real
  match numeral.fraction?, numeral.exponent? with
  | none, none =>
      if dropped ≠ 0 then real shift
      else if !negative then some (.integer whole)
      else if whole = 0 ∨ Nat.pow 2 63 < whole then real 0
      else some (.integer (-(whole : Int)))
  | _, none => real shift
  | _, some (down, exponent) =>
      let size := (Text.digits? exponent).getD 0
      if Nat.pow 2 31 ≤ size then
        if digits = 0 ∨ down then real (-1000) else none
      else
        real (if down then shift - size else shift + size)

/-- A number, after its sign if it is negative. -/
def readNumber (strict negative : Bool) : Reader Json := fun text => do
  let (numeral, rest) ← readNumeral text
  match numeral.value? negative with
  | some value => return (value, rest)
  | none => if strict then faultAt .numberOutOfRange rest else return (.null, rest)

/-- Whether another item of a list follows: past the comma in front of it, or past the closing
bracket. -/
def readSeparator (first : Bool) : Reader Bool := fun text =>
  match skipSpace text with
  | [] => faultIn .unfinishedList []
  | some ']' :: rest => .ok (false, rest)
  | c? :: rest =>
      if first then
        .ok (true, c? :: rest)
      else if c? = some ',' then
        match skipSpace rest with
        | [] => faultIn .unfinishedValue []
        | some ']' :: rest => faultIn .trailingComma (some ']' :: rest)
        | text => .ok (true, text)
      else
        faultIn .expectedListEnd (c? :: rest)

/-- The items of a list after its opening bracket, up to its closing one. The first argument bounds
their number, the second says whether none has been read yet. -/
def readItems {α : Type} (readItem : Reader α) : Nat → Bool → Reader (List α)
  | 0, _, rest => faultAt .unfinishedList rest
  | fuel + 1, first, text => do
      match ← readSeparator first text with
      | (false, rest) => return ([], rest)
      | (true, rest) =>
          let (value, rest) ← readItem rest
          let (values, rest) ← readItems readItem fuel false rest
          return (value :: values, rest)

/-- The colon between a name and its value. -/
def readColon : Reader Unit := fun text =>
  match skipSpace text with
  | [] => faultIn .unfinishedObject []
  | some ':' :: rest => .ok ((), rest)
  | rest => faultIn .expectedColon rest

/-- The name of the next member, or none at the closing brace, which is passed over. -/
def readName (strict first : Bool) : Reader (Option Text) := fun text =>
  match skipSpace text with
  | [] => faultIn .unfinishedObject []
  | some '\x7d' :: rest => .ok (none, rest)
  | c? :: rest =>
      let name : Except ReadError RawText :=
        if first then .ok (c? :: rest)
        else if c? = some ',' then .ok (skipSpace rest)
        else faultIn .expectedObjectEnd (c? :: rest)
      do
        match ← name with
        | [] => faultIn .unfinishedValue []
        | some '"' :: rest =>
            let (name, rest) ← readString strict rest
            return (some name, rest)
        | some '\x7d' :: rest => faultIn .trailingComma (some '\x7d' :: rest)
        | rest => faultIn .expectedName rest

/-- The members of an object after its opening brace, up to its closing one. -/
def readMembers {α : Type} (strict : Bool) (readValue : Reader α) :
    Nat → Bool → Reader (Entries α)
  | 0, _, rest => faultAt .unfinishedObject rest
  | fuel + 1, first, text => do
      match ← readName strict first text with
      | (none, rest) => return ([], rest)
      | (some name, rest) =>
          let ((), rest) ← readColon rest
          let (value, rest) ← readValue rest
          let (members, rest) ← readMembers strict readValue fuel false rest
          return ((name, value) :: members, rest)

/-- A value whose parts, if it has any, are read by the given reader; without one it may not have
parts. -/
def readValueWith (strict : Bool) (readPart? : Option (Reader Json)) : Reader Json := fun text =>
  match skipSpace text with
  | [] => faultIn .unfinishedValue []
  | none :: rest => faultIn .expectedValue (none :: rest)
  | some c :: rest =>
      match c with
      | 'n' => do
          let ((), rest) ← readWord "ull".toList rest
          return (.null, rest)
      | 't' => do
          let ((), rest) ← readWord "rue".toList rest
          return (.bool true, rest)
      | 'f' => do
          let ((), rest) ← readWord "alse".toList rest
          return (.bool false, rest)
      | '-' => readNumber strict true rest
      | '"' => do
          let (value, rest) ← readString strict rest
          return (.string value, rest)
      | '[' =>
          match readPart? with
          | none => faultIn .tooDeep (some c :: rest)
          | some readPart => do
              let (items, rest) ← readItems readPart (rest.length + 1) true rest
              return (.array items, rest)
      | '\x7b' =>
          match readPart? with
          | none => faultIn .tooDeep (some c :: rest)
          | some readPart => do
              let (members, rest) ← readMembers strict readPart (rest.length + 1) true rest
              return (ofMembers members, rest)
      | _ =>
          if c.isDigit then readNumber strict false (some c :: rest)
          else faultIn .expectedValue (some c :: rest)

/-- A value that nests no deeper than the given depth. -/
def readValue (strict : Bool) : Nat → Reader Json
  | 0 => readValueWith strict none
  | depth + 1 => readValueWith strict (some (readValue strict depth))

/-- How deep values may nest. -/
def depthLimit : Nat := 127

/-- The end of a text, after space. -/
def readEnd (text : RawText) : Except ReadError Unit :=
  match skipSpace text with
  | [] => .ok ()
  | rest => faultIn .trailingCharacters rest

/-- A text read as one value. -/
def parse (text : Text) : Except ReadError Json := do
  let (value, rest) ← readValue true depthLimit text.raw
  readEnd rest
  return value

/-- The line, counted from one, and the column in bytes that some bytes lead to. -/
def position (bytes : List UInt8) : Nat × Nat :=
  bytes.foldl
    (fun (line, column) (next : UInt8) => if next = 10 then (line + 1, 0) else (line, column + 1))
    (1, 0)

/-- The error in words, with the position in the whole text. -/
def ReadError.message (text : Text) : ReadError → Text
  | .misshapen => "invalid type".toList
  | .faulty fault rest ahead =>
      let bytes := Text.encode text
      let (line, column) := position (bytes.take (bytes.length - rest.byteLength + ahead))
      fault.message ++ " at line ".toList ++ Text.ofNat line ++ " column ".toList ++
        Text.ofNat column

end ProxyHistory.Json
