import ProxyHistory.Text.Basic
import ProxyHistory.Text.Case.Mappings
import ProxyHistory.Text.CharClass

/-!
# Letter case

Lower and upper case of whole texts. A character may have a counterpart of several characters, and a
capital sigma at the end of a word has a lower case of its own.
-/

namespace ProxyHistory.Text

namespace Case

/-- The counterpart of a code point that belongs to the run. -/
def Run.counterpart? (run : Run) (code : Nat) : Option Nat :=
  if run.first ≤ code ∧ code ≤ run.last ∧ (code - run.first) % run.stride = 0 then
    some (code + run.shift).toNat
  else
    none

/-- The counterpart of a character in the first run that it belongs to, or else itself. -/
def counterpart (runs : List Run) (c : Char) : Char :=
  match runs.findSome? (·.counterpart? c.toNat) with
  | some code => Char.ofNat code
  | none => c

end Case

/-- Letters that have a case and are not passed over between letters. -/
def isCased (c : Char) : Bool :=
  if c.toNat < 0x80 then c.isAlpha else inRanges Case.casedRanges c.toNat

/-- Characters that are passed over when looking for the letter next to a sigma. -/
def isCaseIgnorable (c : Char) : Bool :=
  inRanges Case.ignorableRanges c.toNat

/-- Whether the first character that is not passed over is a cased letter. -/
def startsCased (text : Text) : Bool :=
  match text.dropWhile isCaseIgnorable with
  | [] => false
  | c :: _ => isCased c

/-- The lower case of a character other than the capital sigma. -/
def lowerChar (c : Char) : Text :=
  if c.toNat < 0x80 then [c.toLower]
  else if c = '\u0130' then ['i', '\u0307']
  else [Case.counterpart Case.lowerRuns c]

/-- The lower case of `text` when `before`, read backwards, stands in front of it. A capital sigma
ends a word when a cased letter precedes it and none follows. -/
def lowerAfter (before : Text) : Text → Text
  | [] => []
  | c :: rest =>
      let lowered :=
        if c = '\u03A3' then
          [if startsCased before && !startsCased rest then '\u03C2' else '\u03C3']
        else
          lowerChar c
      lowered ++ lowerAfter (c :: before) rest

/-- The text in lower case. -/
def lower (text : Text) : Text :=
  lowerAfter [] text

/-- The upper case of a character. -/
def upperChar (c : Char) : Text :=
  if c.toNat < 0x80 then [c.toUpper]
  else
    match Case.upperExpansions.lookup c.toNat with
    | some codes => codes.map Char.ofNat
    | none => [Case.counterpart Case.upperRuns c]

/-- The text in upper case. -/
def upper (text : Text) : Text :=
  text.flatMap upperChar

end ProxyHistory.Text
