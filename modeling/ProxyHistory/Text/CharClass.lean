import ProxyHistory.Text.CharClass.Ranges

/-!
# Character classes

The classes that the query language and the printers ask about. For the ASCII characters a class is
given by its letters and digits, beyond them by its table of ranges.
-/

namespace ProxyHistory.Text

/-- Whether a code point lies in one of the ranges. -/
def inRanges (ranges : List (Nat × Nat)) (code : Nat) : Bool :=
  ranges.any fun (first, last) => first ≤ code && code ≤ last

/-- Letters, marks, decimal digits, connecting punctuation and joiners. -/
def isWordChar (c : Char) : Bool :=
  if c.toNat < 0x80 then c.isAlphanum || c == '_' else inRanges CharClass.wordRanges c.toNat

/-- Decimal digits of any script. -/
def isDecimalDigit (c : Char) : Bool :=
  if c.toNat < 0x80 then c.isDigit else inRanges CharClass.digitRanges c.toNat

/-- Characters that are drawn as part of the character before them. -/
def extendsGrapheme (c : Char) : Bool :=
  inRanges CharClass.graphemeExtendRanges c.toNat

/-- Characters with a visible form, and the space. -/
def isPrintable (c : Char) : Bool :=
  if c.toNat < 0x80 then 0x20 ≤ c.toNat && c.toNat < 0x7F
  else !inRanges CharClass.unprintableRanges c.toNat

end ProxyHistory.Text
