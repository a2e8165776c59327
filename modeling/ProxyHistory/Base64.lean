import ProxyHistory.Text.Numeral

/-!
# Base64

Bytes as text of letters, digits and two signs: three bytes give four symbols, and padding fills up
the last four. A reader accepts what a writer produces and nothing else.
-/

namespace ProxyHistory.Base64

/-- Why bytes are not the Base64 form of others. -/
inductive DecodeError
  /-- A byte at an offset that may not stand there. -/
  | invalidSymbol (byte : UInt8) (offset : Nat)
  /-- A single symbol is left over at the end. -/
  | invalidLength (length : Nat)
  /-- The last symbol carries bits that belong to no byte. -/
  | invalidLastSymbol (byte : UInt8) (offset : Nat)
  /-- The padding is missing or too short. -/
  | invalidPadding
  deriving DecidableEq, Repr

/-- The error in words. -/
def DecodeError.message : DecodeError → Text
  | .invalidSymbol byte offset =>
      "Invalid symbol ".toList ++ Text.ofNat byte.toNat ++ ", offset ".toList ++
        Text.ofNat offset ++ ".".toList
  | .invalidLength length => "Invalid input length: ".toList ++ Text.ofNat length
  | .invalidLastSymbol byte offset =>
      "Invalid last symbol ".toList ++ Text.ofNat byte.toNat ++ ", offset ".toList ++
        Text.ofNat offset ++ ".".toList
  | .invalidPadding => "Invalid padding".toList

/-- The symbol for six bits. -/
def symbol (bits : Nat) : Char :=
  if bits < 26 then Char.ofNat ('A'.toNat + bits)
  else if bits < 52 then Char.ofNat ('a'.toNat + (bits - 26))
  else if bits < 62 then Char.ofNat ('0'.toNat + (bits - 52))
  else if bits = 62 then '+'
  else '/'

/-- The six bits of a symbol, which is given by its byte. -/
def bits? (byte : UInt8) : Option Nat :=
  let code := byte.toNat
  if 0x41 ≤ code ∧ code ≤ 0x5A then some (code - 0x41)
  else if 0x61 ≤ code ∧ code ≤ 0x7A then some (code - 0x61 + 26)
  else if 0x30 ≤ code ∧ code ≤ 0x39 then some (code - 0x30 + 52)
  else if code = 0x2B then some 62
  else if code = 0x2F then some 63
  else none

/-- The byte that pads. -/
def padding : UInt8 := 0x3D

/-- The Base64 form of bytes. -/
def encode : List UInt8 → Text
  | a :: b :: c :: rest =>
      let number := (a.toNat * 256 + b.toNat) * 256 + c.toNat
      symbol (number / 0x40000) :: symbol (number / 0x1000 % 64) :: symbol (number / 64 % 64) ::
        symbol (number % 64) :: encode rest
  | [a, b] =>
      let number := (a.toNat * 256 + b.toNat) * 4
      [symbol (number / 0x1000), symbol (number / 64 % 64), symbol (number % 64), '=']
  | [a] =>
      let number := a.toNat * 16
      [symbol (number / 64), symbol (number % 64), '=', '=']
  | [] => []

/-- The six bits of the byte at an offset. -/
def readBits (offset : Nat) (byte : UInt8) : Except DecodeError Nat :=
  match bits? byte with
  | some bits => .ok bits
  | none => .error (.invalidSymbol byte offset)

/-- The symbols of the last group up to its padding, with their offsets, and the length of the
padding. No symbol comes after padding, and the padding comes after two symbols at least. -/
def splitPadding (offset : Nat) (group : List UInt8) :
    Except DecodeError (List (UInt8 × Nat) × Nat) :=
  let symbols := group.takeWhile (· ≠ padding)
  let rest := group.drop symbols.length
  if !rest.isEmpty ∧ (symbols.length < 2 ∨ rest.any (· ≠ padding)) then
    .error (.invalidSymbol padding (offset + symbols.length))
  else
    .ok (symbols.zipIdx offset, rest.length)

/-- Read the last group of up to four bytes. -/
def decodeLast (offset : Nat) (group : List UInt8) : Except DecodeError (List UInt8) := do
  let symbols := group.takeWhile (· ≠ padding)
  let bits ← (symbols.zipIdx offset).mapM fun (byte, offset) => readBits offset byte
  let (symbols, padded) ← splitPadding offset group
  match symbols, bits with
  | [], [] => if offset = 0 then return [] else throw (.invalidLength offset)
  | [_], _ => throw (.invalidLength (offset + 1))
  | _, _ =>
      if (symbols.length + padded) % 4 ≠ 0 then
        throw .invalidPadding
      let number := bits.foldl (fun number bits => number * 64 + bits) 0
      match symbols, number with
      | [_, (last, offset)], number =>
          if number % 16 ≠ 0 then throw (.invalidLastSymbol last offset)
          else return [UInt8.ofNat (number / 16)]
      | [_, _, (last, offset)], number =>
          if number % 4 ≠ 0 then throw (.invalidLastSymbol last offset)
          else return [UInt8.ofNat (number / 0x400), UInt8.ofNat (number / 4)]
      | _, number =>
          return [UInt8.ofNat (number / 0x10000), UInt8.ofNat (number / 0x100), UInt8.ofNat number]

/-- Read the groups from an offset on. -/
def decodeFrom (offset : Nat) : List UInt8 → Except DecodeError (List UInt8)
  | a :: b :: c :: d :: next :: rest => do
      let number := (((← readBits offset a) * 64 + (← readBits (offset + 1) b)) * 64 +
        (← readBits (offset + 2) c)) * 64 + (← readBits (offset + 3) d)
      let more ← decodeFrom (offset + 4) (next :: rest)
      return UInt8.ofNat (number / 0x10000) :: UInt8.ofNat (number / 0x100) :: UInt8.ofNat number ::
        more
  | group => decodeLast offset group

/-- The bytes of which the given ones are the Base64 form. A byte too many at the end is reported
first if it is no symbol. -/
def decode (bytes : List UInt8) : Except DecodeError (List UInt8) :=
  match bytes.getLast? with
  | some last =>
      if bytes.length % 4 = 1 ∧ last ≠ padding ∧ (bits? last).isNone then
        .error (.invalidSymbol last (bytes.length - 1))
      else
        decodeFrom 0 bytes
  | none => .ok []

end ProxyHistory.Base64
