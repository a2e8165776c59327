import ProxyHistory.Text.Normal.Compositions

/-!
# Canonical composition

The composed normal form of a text: characters are taken apart as far as they go, the marks after a
base are put in the order of their classes, and what composes is put together again. The table of
compositions serves both ways, since only characters that compose again are taken apart here.
-/

namespace ProxyHistory.Text

namespace Normal

/-- The combining class of a character. -/
def combiningClass (c : Char) : Nat :=
  ((classRanges.find? fun (first, last, _) => first ≤ c.toNat && c.toNat ≤ last).map
    (·.2.2)).getD 0

/-- The first Hangul syllable. -/
def syllableBase : Nat := 0xAC00

/-- The number of Hangul syllables. -/
def syllableCount : Nat := 11172

/-- The leading consonants, the vowels and the trailing consonants of Hangul start here. The last of
them stands for no consonant. -/
def leadBase : Nat := 0x1100

def vowelBase : Nat := 0x1161

def trailBase : Nat := 0x11A7

/-- The two characters that a character is composed of. -/
def takeApart? (c : Char) : Option (Char × Char) :=
  let code := c.toNat
  if syllableBase ≤ code ∧ code < syllableBase + syllableCount then
    let index := code - syllableBase
    if index % 28 = 0 then
      some (Char.ofNat (leadBase + index / 588), Char.ofNat (vowelBase + index % 588 / 28))
    else
      some (Char.ofNat (code - index % 28), Char.ofNat (trailBase + index % 28))
  else
    (compositions.find? (·.2.2 == code)).map fun (first, second, _) =>
      (Char.ofNat first, Char.ofNat second)

/-- The character that two characters compose to. -/
def putTogether? (first second : Char) : Option Char :=
  let a := first.toNat
  let b := second.toNat
  if leadBase ≤ a ∧ a < leadBase + 19 ∧ vowelBase ≤ b ∧ b < vowelBase + 21 then
    some (Char.ofNat (syllableBase + ((a - leadBase) * 21 + (b - vowelBase)) * 28))
  else if syllableBase ≤ a ∧ a < syllableBase + syllableCount ∧ (a - syllableBase) % 28 = 0 ∧
      trailBase < b ∧ b < trailBase + 28 then
    some (Char.ofNat (a + (b - trailBase)))
  else
    (compositions.find? fun (left, right, _) => left == a && right == b).map fun (_, _, composed) =>
      Char.ofNat composed

/-- The characters that a character is made of, taken apart at most as often as the first argument
says. -/
def decompose : Nat → Char → Text
  | 0, c => [c]
  | fuel + 1, c =>
      match takeApart? c with
      | some (first, second) => decompose fuel first ++ [second]
      | none => [c]

/-- Put a mark before the marks of a higher class at the end of a text, which is given backwards. -/
def insertMark (mark : Char) : Text → Text
  | [] => [mark]
  | last :: before =>
      if combiningClass mark < combiningClass last then last :: insertMark mark before
      else mark :: last :: before

/-- Put the marks after each base in the order of their classes. -/
def orderMarks (text : Text) : Text :=
  (text.foldl
    (fun (backwards : Text) c =>
      if combiningClass c = 0 then c :: backwards else insertMark c backwards) []).reverse

/-- Compose the characters after a base with it. The marks that stay behind the base are given
backwards. -/
def composeAfter (base : Char) (marks : Text) : Text → Text
  | [] => base :: marks.reverse
  | c :: rest =>
      let free := match marks with
        | [] => true
        | last :: _ => combiningClass last < combiningClass c
      match if free then putTogether? base c else none with
      | some composed => composeAfter composed marks rest
      | none =>
          if combiningClass c = 0 then base :: marks.reverse ++ composeAfter c [] rest
          else composeAfter base (c :: marks) rest

/-- Compose what composes. -/
def compose (text : Text) : Text :=
  let leading := text.takeWhile (combiningClass · ≠ 0)
  match text.dropWhile (combiningClass · ≠ 0) with
  | [] => leading
  | base :: rest => leading ++ composeAfter base [] rest

end Normal

/-- The composed normal form. -/
def normalize (text : Text) : Text :=
  if text.all (·.toNat < 0x80) then text
  else Normal.compose (Normal.orderMarks (text.flatMap (Normal.decompose 4)))

end ProxyHistory.Text
