import ProxyHistory.Text.Basic

/-!
# UTF-8

Text as bytes and bytes as text. Bytes that make up no text are read as one with gaps, where each
ill-formed stretch of them is. A lossy reading fills the gaps with the replacement character.
-/

namespace ProxyHistory

/-- A text with gaps. -/
abbrev RawText := List (Option Char)

namespace RawText

/-- The text, if there are no gaps. -/
def text? (raw : RawText) : Option Text :=
  raw.mapM id

/-- The text with the gaps filled. -/
def lossy (raw : RawText) : Text :=
  raw.map fun c? => c?.getD '\uFFFD'

end RawText

namespace Text

/-- The text as one without gaps. -/
def raw (text : Text) : RawText :=
  text.map some

/-- The byte with the given value. -/
def byte (value : Nat) : UInt8 :=
  UInt8.ofNat value

/-- The bytes of a character. -/
def encodeChar (c : Char) : List UInt8 :=
  let code := c.toNat
  if code < 0x80 then [byte code]
  else if code < 0x800 then [byte (0xC0 + code / 0x40), byte (0x80 + code % 0x40)]
  else if code < 0x10000 then
    [byte (0xE0 + code / 0x1000), byte (0x80 + code / 0x40 % 0x40), byte (0x80 + code % 0x40)]
  else
    [byte (0xF0 + code / 0x40000), byte (0x80 + code / 0x1000 % 0x40),
      byte (0x80 + code / 0x40 % 0x40), byte (0x80 + code % 0x40)]

/-- The bytes of a text. -/
def encode (text : Text) : List UInt8 :=
  text.flatMap encodeChar

/-- The number of bytes of a text. -/
def byteLength (text : Text) : Nat :=
  text.foldl (fun length c => length + (encodeChar c).length) 0

/-- What the first byte of a character announces: the number of bytes after it, the bounds of the
first of them, and the bits that it carries itself. -/
structure Lead where
  /-- The number of continuation bytes. -/
  more : Nat
  /-- The least value of the first continuation byte. -/
  low : Nat
  /-- The greatest value of the first continuation byte. -/
  high : Nat
  /-- The leading bits of the code point. -/
  bits : Nat

/-- What a byte announces as the first byte of a character. -/
def lead? (first : UInt8) : Option Lead :=
  let value := first.toNat
  if value < 0x80 then some ⟨0, 0, 0, value⟩
  else if 0xC2 ≤ value ∧ value ≤ 0xDF then some ⟨1, 0x80, 0xBF, value - 0xC0⟩
  else if value = 0xE0 then some ⟨2, 0xA0, 0xBF, 0⟩
  else if value = 0xED then some ⟨2, 0x80, 0x9F, 0xD⟩
  else if 0xE1 ≤ value ∧ value ≤ 0xEF then some ⟨2, 0x80, 0xBF, value - 0xE0⟩
  else if value = 0xF0 then some ⟨3, 0x90, 0xBF, 0⟩
  else if 0xF1 ≤ value ∧ value ≤ 0xF3 then some ⟨3, 0x80, 0xBF, value - 0xF0⟩
  else if value = 0xF4 then some ⟨3, 0x80, 0x8F, 4⟩
  else none

/-- Where a decoder stands: the code point so far, the number of bytes that it still needs, and the
bounds of the next of them. -/
structure Pending where
  /-- The bits read so far. -/
  bits : Nat
  /-- The number of bytes still needed. -/
  more : Nat
  /-- The least value of the next byte. -/
  low : Nat
  /-- The greatest value of the next byte. -/
  high : Nat

/-- The characters of the bytes, with a gap in the place of every ill-formed stretch. A stretch ends
before the first byte that cannot continue it. -/
def decodeFrom : Option Pending → List UInt8 → RawText
  | none, [] => []
  | some _, [] => [none]
  | pending?, next :: rest =>
      let begin : RawText :=
        match lead? next with
        | none => none :: decodeFrom none rest
        | some ⟨0, _, _, bits⟩ => some (Char.ofNat bits) :: decodeFrom none rest
        | some ⟨more + 1, low, high, bits⟩ => decodeFrom (some ⟨bits, more + 1, low, high⟩) rest
      match pending? with
      | none => begin
      | some pending =>
          if pending.low ≤ next.toNat ∧ next.toNat ≤ pending.high then
            let bits := pending.bits * 0x40 + (next.toNat - 0x80)
            if pending.more ≤ 1 then some (Char.ofNat bits) :: decodeFrom none rest
            else decodeFrom (some ⟨bits, pending.more - 1, 0x80, 0xBF⟩) rest
          else
            none :: begin

/-- The text of any bytes, with its gaps. -/
def decode (bytes : List UInt8) : RawText :=
  decodeFrom none bytes

/-- The text of well-formed bytes. -/
def decode? (bytes : List UInt8) : Option Text :=
  (decode bytes).text?

/-- The text of any bytes. -/
def decodeLossy (bytes : List UInt8) : Text :=
  (decode bytes).lossy

end Text

/-- The number of bytes of a text with gaps, of which each takes up at least one. -/
def RawText.byteLength (raw : RawText) : Nat :=
  raw.foldl (fun length c? => length + (c?.map fun c => (Text.encodeChar c).length).getD 1) 0

end ProxyHistory
