import ProxyHistory.Text.Basic

/-!
# Keywords in query text

A keyword counts only as a word of its own outside quotes. One scan from left to right carries what
that depends on: the quote that is open, and whether a blank stands before the next character.
-/

namespace ProxyHistory.Query

/-- The two characters that quote text. -/
def isQuote (c : Char) : Bool :=
  c == '\'' || c == '"'

/-- Where a scan of query text stands. -/
structure Scan where
  /-- The quote character that closes the open quote, if one is open. -/
  quote? : Option Char
  /-- Whether the text before is empty or ends with a blank. -/
  afterBlank : Bool
  deriving DecidableEq, Repr

namespace Scan

/-- The scan before any text. -/
def start : Scan where
  quote? := none
  afterBlank := true

/-- Scan one character. -/
def step (scan : Scan) (c : Char) : Scan where
  quote? :=
    match scan.quote? with
    | some quote => if c = quote then none else some quote
    | none => if isQuote c then some c else none
  afterBlank := Text.isBlank c

/-- Scan a text. -/
def run (scan : Scan) (text : Text) : Scan :=
  text.foldl step scan

/-- Whether a word may start here. -/
def atWordStart (scan : Scan) : Bool :=
  scan.quote?.isNone && scan.afterBlank

end Scan

/-- Whether the text starts with `word`, in any ASCII case, up to a blank or the end. -/
def startsWithWord (word text : Text) : Bool :=
  Text.sameIgnoringCase (text.take word.length) word &&
    (text.drop word.length).head?.all Text.isBlank

/-- The positions in the text at which `word` stands as a keyword. -/
def occurrences (word : Text) : Scan → Text → List Nat
  | _, [] => []
  | scan, c :: rest =>
      let later := (occurrences word (scan.step c) rest).map (· + 1)
      if scan.atWordStart && startsWithWord word (c :: rest) then 0 :: later else later

/-- The positions at which `word` stands as a keyword of a whole text. -/
def keywordPositions (word text : Text) : List Nat :=
  occurrences word .start text

/-- A stretch of a text, from one position up to another. -/
structure Span where
  /-- The position of the first character. -/
  start : Nat
  /-- The position after the last character. -/
  stop : Nat
  deriving DecidableEq, Repr

/-- The characters of a span. -/
def Span.of (span : Span) (text : Text) : Text :=
  (text.take span.stop).drop span.start

/-- The spans from `start` up to `stop` that the keywords of one width at the given positions leave
between them. -/
def gaps (width stop start : Nat) : List Nat → List Span
  | [] => [⟨start, stop⟩]
  | position :: positions =>
      ⟨start, position⟩ :: gaps width stop (position + width) positions

/-- The word that joins conditions. -/
def andKeyword : Text := "and".toList

/-- The spans between the joining words of a list of conditions. -/
def fragmentSpans (clause : Text) : List Span :=
  gaps andKeyword.length clause.length 0 (keywordPositions andKeyword clause)

/-- The conditions of a clause, without the blanks around them; empty ones are left out. -/
def fragments (clause : Text) : List Text :=
  ((fragmentSpans clause).map fun span => Text.trim (span.of clause)).filter (!·.isEmpty)

end ProxyHistory.Query
