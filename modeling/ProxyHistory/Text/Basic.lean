/-!
# Text

Text is a list of Unicode scalar values, so that every scan over it is a recursion on its
characters. This module holds the blank characters, trimming, and the ways a text is split: into
lines, into words, at a character, and at the first occurrence of another text.
-/

namespace ProxyHistory

/-- A sequence of Unicode scalar values. -/
abbrev Text := List Char

namespace Text

/-- What all characters of a text satisfy is decided along the text, never over all characters. -/
instance (priority := 2000) decidableForallMem (Holds : Char → Prop) [DecidablePred Holds]
    (text : Text) : Decidable (∀ c ∈ text, Holds c) :=
  List.decidableBAll Holds text

instance (priority := 2000) decidableForallMemOption (Holds : Char → Prop) [DecidablePred Holds]
    (c? : Option Char) : Decidable (∀ c ∈ c?, Holds c) :=
  Option.decidableForallMem c?

/-- Membership in Unicode's White_Space property. -/
def isBlank (c : Char) : Bool :=
  let code := c.toNat
  (0x09 ≤ code && code ≤ 0x0D) || code == 0x20 || code == 0x85 || code == 0xA0 ||
    code == 0x1680 || (0x2000 ≤ code && code ≤ 0x200A) || code == 0x2028 || code == 0x2029 ||
    code == 0x202F || code == 0x205F || code == 0x3000

/-- Drop the blank characters in front. -/
def trimStart (text : Text) : Text :=
  text.dropWhile isBlank

/-- Drop the blank characters at the end. -/
def trimEnd (text : Text) : Text :=
  (text.reverse.dropWhile isBlank).reverse

/-- Drop the blank characters at both ends. -/
def trim (text : Text) : Text :=
  trimEnd (trimStart text)

/-- The maximal runs without blank characters. -/
def words (text : Text) : List Text :=
  (text.splitOnP isBlank).filter fun word => !word.isEmpty

/-- Drop one carriage return at the end. -/
def dropReturn (line : Text) : Text :=
  if line.getLast? = some '\r' then line.dropLast else line

/-- The lines of a text. A line ends at a line feed, or at a carriage return and a line feed; the
part after the last line feed is a line of its own, kept as it stands, unless it is empty. -/
def lines (text : Text) : List Text :=
  let pieces := text.splitOn '\n'
  pieces.dropLast.map dropReturn ++
    match pieces.getLast? with
    | none | some [] => []
    | some last => [last]

/-- The parts before and after the first character that separates. -/
def splitOnce? (separates : Char → Bool) : Text → Option (Text × Text)
  | [] => none
  | c :: rest =>
      if separates c then
        some ([], rest)
      else
        (splitOnce? separates rest).map fun (before, after) => (c :: before, after)

/-- The parts before and after the first occurrence of `mark`. -/
def cutAt? (mark : Text) : Text → Option (Text × Text)
  | [] => if mark.isEmpty then some ([], []) else none
  | c :: rest =>
      if mark.isPrefixOf (c :: rest) then
        some ([], (c :: rest).drop mark.length)
      else
        (cutAt? mark rest).map fun (before, after) => (c :: before, after)

/-- Whether `part` occurs in `text`. -/
def includes (text part : Text) : Bool :=
  (cutAt? part text).isSome

/-- The text in lower case as far as the letters `A` to `Z` go. -/
def asciiLower (text : Text) : Text :=
  text.map Char.toLower

/-- Equality up to the case of the letters `A` to `Z`. -/
def sameIgnoringCase (first second : Text) : Bool :=
  asciiLower first == asciiLower second

end Text

end ProxyHistory
