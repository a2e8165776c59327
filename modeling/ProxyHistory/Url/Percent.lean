import ProxyHistory.Text.Utf8

/-!
# Percent encoding

Characters that may not stand for themselves in a part of a URL are written as their bytes, each as
a percent sign and two hexadecimal digits.
-/

namespace ProxyHistory.Percent

/-- A hexadecimal digit in upper case. -/
def hexDigit (value : Nat) : Char :=
  (Nat.digitChar value).toUpper

/-- A byte in its encoded form. -/
def encodeByte (byte : UInt8) : Text :=
  ['%', hexDigit (byte.toNat / 16), hexDigit (byte.toNat % 16)]

/-- Encode the characters that need it and all that are not ASCII. -/
def encode (needed : Char → Bool) (text : Text) : Text :=
  text.flatMap fun c =>
    if 0x80 ≤ c.toNat || needed c then (Text.encodeChar c).flatMap encodeByte else [c]

/-- The value of a hexadecimal digit given by its byte. -/
def hexValue? (byte : UInt8) : Option Nat :=
  let value := byte.toNat
  if 0x30 ≤ value ∧ value ≤ 0x39 then some (value - 0x30)
  else if 0x41 ≤ value ∧ value ≤ 0x46 then some (value - 0x41 + 10)
  else if 0x61 ≤ value ∧ value ≤ 0x66 then some (value - 0x61 + 10)
  else none

/-- Replace each encoded byte by the byte itself. A percent sign that starts none stays. -/
def decode : List UInt8 → List UInt8
  | 0x25 :: high :: low :: rest =>
      match hexValue? high, hexValue? low with
      | some a, some b => UInt8.ofNat (16 * a + b) :: decode rest
      | _, _ => 0x25 :: decode (high :: low :: rest)
  | byte :: rest => byte :: decode rest
  | [] => []

/-- Controls are encoded everywhere. -/
def inControls (c : Char) : Bool :=
  c.toNat < 0x20 || c.toNat == 0x7F

/-- The characters that are encoded in fragments. -/
def inFragment (c : Char) : Bool :=
  inControls c || " \"<>`".toList.contains c

/-- The characters that are encoded in paths. -/
def inPath (c : Char) : Bool :=
  inFragment c || c == '#' || c == '?' || c == '\x7b' || c == '\x7d'

/-- The characters that are encoded in user names and passwords. -/
def inCredentials (c : Char) : Bool :=
  inPath c || "/:;=@[\\]^|".toList.contains c

/-- The characters that are encoded in queries. -/
def inQuery (c : Char) : Bool :=
  inControls c || " \"#<>".toList.contains c

/-- The characters that are encoded in the queries of special schemes. -/
def inSpecialQuery (c : Char) : Bool :=
  inQuery c || c == '\''

end ProxyHistory.Percent
