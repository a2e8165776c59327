import ProxyHistory.Text.Utf8

/-!
# Digests

The MD5 digest of a sequence of bytes: four words of 32 bits, stirred in 64 steps by every block of
sixteen words.
-/

namespace ProxyHistory

/-- A digest of 128 bits as four words, of which the first bytes are the low ones. -/
structure Digest where
  a : UInt32
  b : UInt32
  c : UInt32
  d : UInt32
  deriving DecidableEq, Repr

namespace Digest

/-- The digest before the first block. -/
def start : Digest :=
  ⟨0x67452301, 0xEFCDAB89, 0x98BADCFE, 0x10325476⟩

/-- What the steps add: the fractional parts of the sines of 1 to 64. -/
def sines : List UInt32 :=
  [
    0xD76AA478, 0xE8C7B756, 0x242070DB, 0xC1BDCEEE, 0xF57C0FAF, 0x4787C62A,
    0xA8304613, 0xFD469501, 0x698098D8, 0x8B44F7AF, 0xFFFF5BB1, 0x895CD7BE,
    0x6B901122, 0xFD987193, 0xA679438E, 0x49B40821, 0xF61E2562, 0xC040B340,
    0x265E5A51, 0xE9B6C7AA, 0xD62F105D, 0x02441453, 0xD8A1E681, 0xE7D3FBC8,
    0x21E1CDE6, 0xC33707D6, 0xF4D50D87, 0x455A14ED, 0xA9E3E905, 0xFCEFA3F8,
    0x676F02D9, 0x8D2A4C8A, 0xFFFA3942, 0x8771F681, 0x6D9D6122, 0xFDE5380C,
    0xA4BEEA44, 0x4BDECFA9, 0xF6BB4B60, 0xBEBFBC70, 0x289B7EC6, 0xEAA127FA,
    0xD4EF3085, 0x04881D05, 0xD9D4D039, 0xE6DB99E5, 0x1FA27CF8, 0xC4AC5665,
    0xF4292244, 0x432AFF97, 0xAB9423A7, 0xFC93A039, 0x655B59C3, 0x8F0CCC92,
    0xFFEFF47D, 0x85845DD1, 0x6FA87E4F, 0xFE2CE6E0, 0xA3014314, 0x4E0811A1,
    0xF7537E82, 0xBD3AF235, 0x2AD7D2BB, 0xEB86D391]

/-- How far the four steps of each round rotate. -/
def rotations : List (List UInt32) :=
  [[7, 12, 17, 22], [5, 9, 14, 20], [4, 11, 16, 23], [6, 10, 15, 21]]

/-- A word with its bits moved to higher places; those that leave it come back below. -/
def rotate (word amount : UInt32) : UInt32 :=
  (word <<< amount) ||| (word >>> (32 - amount))

/-- The mix of three words in a step, and the word of the block that goes with it. -/
def mix (digest : Digest) (index : Nat) : UInt32 × Nat :=
  let ⟨_, b, c, d⟩ := digest
  match index / 16 with
  | 0 => ((b &&& c) ||| (~~~b &&& d), index)
  | 1 => ((d &&& b) ||| (~~~d &&& c), (5 * index + 1) % 16)
  | 2 => (b ^^^ c ^^^ d, (3 * index + 5) % 16)
  | _ => (c ^^^ (b ||| ~~~d), 7 * index % 16)

/-- The step with the given index, where `sine` is what it adds. -/
def step (block : Array UInt32) (digest : Digest) (numbered : UInt32 × Nat) : Digest :=
  let (sine, index) := numbered
  let (mixed, place) := mix digest index
  let amount := (rotations.getD (index / 16) []).getD (index % 4) 0
  let sum := mixed + digest.a + sine + block.getD place 0
  ⟨digest.d, digest.b + rotate sum amount, digest.b, digest.c⟩

/-- Stir a block into a digest. -/
def stir (digest : Digest) (block : Array UInt32) : Digest :=
  let stirred := sines.zipIdx.foldl (step block) digest
  ⟨digest.a + stirred.a, digest.b + stirred.b, digest.c + stirred.c, digest.d + stirred.d⟩

/-- Stir the given number of blocks into a digest. -/
def stirAll : Nat → Digest → List UInt32 → Digest
  | 0, digest, _ => digest
  | count + 1, digest, words => stirAll count (stir digest (words.take 16).toArray) (words.drop 16)

/-- Four bytes at a time as a word, the low one first. -/
def words : List UInt8 → List UInt32
  | a :: b :: c :: d :: rest =>
      (a.toUInt32 ||| b.toUInt32 <<< 8 ||| c.toUInt32 <<< 16 ||| d.toUInt32 <<< 24) :: words rest
  | _ => []

/-- The given number of bytes of a number, the low one first. -/
def bytes : Nat → Nat → List UInt8
  | 0, _ => []
  | count + 1, number => UInt8.ofNat number :: bytes count (number / 256)

/-- Fill up the last block: a bit, zeros, and the number of bits. -/
def pad (message : List UInt8) : List UInt8 :=
  let zeros := (119 - message.length % 64) % 64
  message ++ 0x80 :: List.replicate zeros 0 ++ bytes 8 (8 * message.length)

/-- The digest of a message. -/
def ofBytes (message : List UInt8) : Digest :=
  let words := words (pad message)
  stirAll (words.length / 16) start words

/-- The hexadecimal digits of a digest in lower case. -/
def hex (digest : Digest) : Text :=
  [digest.a, digest.b, digest.c, digest.d].flatMap fun word =>
    (bytes 4 word.toNat).flatMap fun byte =>
      [Nat.digitChar (byte.toNat / 16), Nat.digitChar (byte.toNat % 16)]

end Digest

end ProxyHistory
