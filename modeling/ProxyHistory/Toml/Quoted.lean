import ProxyHistory.Text.Basic

/-!
# Quoted text in TOML

Text between double quotes may hold escapes, text between single quotes holds none. Three quotes
open a text of several lines.
-/

namespace ProxyHistory.Toml

/-- The characters that a quoted text may hold, beside its own quotes and escapes. -/
def isTextChar (c : Char) : Bool :=
  c == '\t' || (0x20 ≤ c.toNat && c.toNat ≠ 0x7F)

/-- What follows a line end in front. -/
def lineEnd? : Text → Option Text
  | '\n' :: rest => some rest
  | '\r' :: '\n' :: rest => some rest
  | _ => none

/-- The blanks within a line. -/
def isBlank (c : Char) : Bool :=
  c == ' ' || c == '\t'

/-- The value of a hexadecimal digit. -/
def hexValue? (c : Char) : Option Nat :=
  if c.isDigit then some (c.toNat - '0'.toNat)
  else if 'a' ≤ c ∧ c ≤ 'f' then some (c.toNat - 'a'.toNat + 10)
  else if 'A' ≤ c ∧ c ≤ 'F' then some (c.toNat - 'A'.toNat + 10)
  else none

/-- The character whose code is given by so many hexadecimal digits. -/
def readCode? (count : Nat) (text : Text) : Option (Char × Text) := do
  let digits ← (text.take count).mapM hexValue?
  let code := digits.foldl (fun code digit => 16 * code + digit) 0
  if digits.length < count ∨ ¬code.isValidChar then none
  else some (Char.ofNat code, text.drop count)

/-- The character of an escape, after its backslash. -/
def readEscape? : Text → Option (Char × Text)
  | 'b' :: rest => some ('\u0008', rest)
  | 't' :: rest => some ('\t', rest)
  | 'n' :: rest => some ('\n', rest)
  | 'f' :: rest => some ('\u000C', rest)
  | 'r' :: rest => some ('\r', rest)
  | '"' :: rest => some ('"', rest)
  | '\\' :: rest => some ('\\', rest)
  | 'u' :: rest => readCode? 4 rest
  | 'U' :: rest => readCode? 8 rest
  | _ => none

/-- What follows the blanks and line ends in front, among which there has to be a line end unless
one was passed already. -/
def skipLineEnds? (passed : Bool) : Text → Option Text
  | [] => if passed then some [] else none
  | '\n' :: rest => skipLineEnds? true rest
  | '\r' :: '\n' :: rest => skipLineEnds? true rest
  | c :: rest =>
      if isBlank c then skipLineEnds? passed rest else if passed then some (c :: rest) else none

/-- The rest of a text in one line, up to its closing quote. The first argument bounds its length.
-/
def readLine? (quote : Char) : Nat → Text → Option (Text × Text)
  | 0, _ => none
  | _ + 1, [] => none
  | fuel + 1, c :: rest =>
      if c = quote then
        some ([], rest)
      else if c = '\\' ∧ quote = '"' then do
        let (escaped, rest) ← readEscape? rest
        let (more, rest) ← readLine? quote fuel rest
        return (escaped :: more, rest)
      else if isTextChar c then do
        let (more, rest) ← readLine? quote fuel rest
        return (c :: more, rest)
      else
        none

/-- The rest of a text in several lines, up to its three closing quotes. Up to two quotes may stand
right before those. -/
def readLines? (quote : Char) : Nat → Text → Option (Text × Text)
  | 0, _ => none
  | _ + 1, [] => none
  | fuel + 1, c :: rest =>
      if c = quote then
        let run := (c :: rest).takeWhile (· == quote)
        if run.length < 3 then do
          let (more, rest) ← readLines? quote fuel ((c :: rest).drop run.length)
          return (run ++ more, rest)
        else
          let kept := min 2 (run.length - 3)
          some (List.replicate kept quote, (c :: rest).drop (kept + 3))
      else
        match lineEnd? (c :: rest) with
        | some rest => do
            let (more, rest) ← readLines? quote fuel rest
            return ('\n' :: more, rest)
        | none =>
            if c = '\\' ∧ quote = '"' then
              match skipLineEnds? false rest with
              | some rest => readLines? quote fuel rest
              | none => do
                  let (escaped, rest) ← readEscape? rest
                  let (more, rest) ← readLines? quote fuel rest
                  return (escaped :: more, rest)
            else if isTextChar c then do
              let (more, rest) ← readLines? quote fuel rest
              return (c :: more, rest)
            else
              none

/-- A quoted text in front, after its first quote. -/
def readQuoted? (quote : Char) (text : Text) : Option (Text × Text) :=
  match text with
  | second :: third :: rest =>
      if second = quote ∧ third = quote then
        readLines? quote (rest.length + 1) ((lineEnd? rest).getD rest)
      else
        readLine? quote (text.length + 1) text
  | _ => readLine? quote (text.length + 1) text

end ProxyHistory.Toml
