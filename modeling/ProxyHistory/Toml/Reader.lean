import ProxyHistory.Toml.Scalar

/-!
# Reading TOML

A document is a sequence of lines: headers, keys with values, comments. Values nest to a fixed
depth.
-/

namespace ProxyHistory.Toml

/-- The characters of keys without quotes. -/
def isKeyChar (c : Char) : Bool :=
  c.isAlphanum || c == '_' || c == '-'

/-- Pass over the blanks in front. -/
def skipBlanks (text : Text) : Text :=
  text.dropWhile isBlank

/-- Pass over a comment in front, up to the end of its line. -/
def skipComment : Text → Text
  | '#' :: rest => rest.dropWhile isTextChar
  | text => text

/-- What follows the rest of a line, on which only a comment may stand. -/
def endLine? (text : Text) : Option Text :=
  match skipComment (skipBlanks text) with
  | [] => some []
  | text => lineEnd? text

/-- Pass over blanks, comments and line ends. The first argument bounds their number. -/
def skipLines : Nat → Text → Text
  | 0, text => text
  | fuel + 1, text =>
      match lineEnd? (skipComment (skipBlanks text)) with
      | some rest => skipLines fuel rest
      | none => skipBlanks text

/-- How deep values may nest, and how many parts a dotted key may have at most. -/
def depthLimit : Nat := 79

/-- A key without dots in front. -/
def readKey? : Text → Option (Text × Text)
  | [] => none
  | c :: rest =>
      if c = '"' ∨ c = '\'' then
        readLine? c (rest.length + 1) rest
      else if isKeyChar c then
        some ((c :: rest).takeWhile isKeyChar, (c :: rest).dropWhile isKeyChar)
      else
        none

/-- A dotted key in front, with blanks around its parts: the parts before the last one, and the last
one. The first argument bounds their number. -/
def readDottedKey? : Nat → Text → Option ((List Text × Text) × Text)
  | 0, _ => none
  | fuel + 1, text => do
      let (key, rest) ← readKey? (skipBlanks text)
      match skipBlanks rest with
      | '.' :: rest => do
          let ((path, last), rest) ← readDottedKey? fuel rest
          return ((key :: path, last), rest)
      | rest => return (([], key), rest)

/-- A dotted key, an equals sign and a value in front. -/
def readMember? (readValue? : Text → Option (Toml × Text)) (text : Text) :
    Option (((List Text × Text) × Toml) × Text) := do
  let (key, rest) ← readDottedKey? depthLimit text
  let (value, rest) ← readValue? (skipBlanks (← skip? '=' rest))
  return ((key, value), rest)

/-- The items of an array after its opening bracket. The first argument bounds their number. -/
def readItems? (readValue? : Text → Option (Toml × Text)) :
    Nat → Text → Option (List Toml × Text)
  | 0, _ => none
  | fuel + 1, text =>
      match skipLines text.length text with
      | ']' :: rest => some ([], rest)
      | text => do
          let (item, rest) ← readValue? text
          match skipLines rest.length rest with
          | ',' :: rest => do
              let (items, rest) ← readItems? readValue? fuel rest
              return (item :: items, rest)
          | ']' :: rest => return ([item], rest)
          | _ => none

/-- The members of a table in one line from a first one on, up to the closing brace. The first
argument bounds their number. -/
def readInline? (readValue? : Text → Option (Toml × Text)) :
    Nat → Members → Text → Option (Members × Text)
  | 0, _, _ => none
  | fuel + 1, members, text => do
      let (((path, key), value), rest) ← readMember? readValue? text
      let members ← assignDotted? path key value .header members
      match skipBlanks rest with
      | ',' :: rest => readInline? readValue? fuel members rest
      | '\x7d' :: rest => return (members, rest)
      | _ => none

/-- A value in front, whose parts are read by the given reader. -/
def readValueWith? (readPart? : Text → Option (Toml × Text)) (text : Text) :
    Option (Toml × Text) :=
  match text with
  | [] => none
  | c :: rest =>
      if c = '"' ∨ c = '\'' then do
        let (value, rest) ← readQuoted? c rest
        return (.string value, rest)
      else if c = '[' then do
        let (items, rest) ← readItems? readPart? (rest.length + 1) rest
        return (.array items, rest)
      else if c = '\x7b' then
        match skipBlanks rest with
        | '\x7d' :: rest => some (.table .inline [], rest)
        | rest => do
            let (members, rest) ← readInline? readPart? (rest.length + 1) [] rest
            return (.table .inline members, rest)
      else
        readScalar? (c :: rest)

/-- A value in front that nests no deeper than the first argument says. -/
def readValue? : Nat → Text → Option (Toml × Text)
  | 0 => fun text =>
      match text with
      | '[' :: _ | '\x7b' :: _ => none
      | _ => readValueWith? (fun _ => none) text
  | depth + 1 => readValueWith? (readValue? depth)

/-- A document as far as it has been read. -/
structure Progress where
  /-- The whole document. -/
  document : Members
  /-- The path of the table that was defined last. -/
  table : List Text

/-- Read a line: a header, or a key with its value. -/
def readLineOf? (progress : Progress) (text : Text) : Option (Progress × Text) :=
  match text with
  | '[' :: '[' :: rest => do
      let ((path, key), rest) ← readDottedKey? depthLimit rest
      let rest ← skip? ']' (← skip? ']' rest)
      return (⟨← appendTable? path key progress.document, path ++ [key]⟩, rest)
  | '[' :: rest => do
      let ((path, key), rest) ← readDottedKey? depthLimit rest
      let rest ← skip? ']' rest
      return (⟨← defineTable? path key progress.document, path ++ [key]⟩, rest)
  | _ => do
      let (((path, key), value), rest) ← readMember? (readValue? depthLimit) text
      return ({ progress with
        document := ← assignIn? progress.table path key value progress.document }, rest)

/-- Read the lines of a document. The first argument bounds their number. -/
def readLines : Nat → Progress → Text → Option Members
  | 0, _, _ => none
  | fuel + 1, progress, text =>
      match skipBlanks text with
      | [] => some progress.document
      | text =>
          match endLine? text with
          | some rest => readLines fuel progress rest
          | none => do
              let (progress, rest) ← readLineOf? progress text
              readLines fuel progress (← endLine? rest)

/-- Read a document. A byte order mark may stand in front. -/
def parse? (text : Text) : Option Members :=
  let text := match text with
    | '\uFEFF' :: rest => rest
    | _ => text
  readLines (text.length + 1) ⟨[], []⟩ text

end ProxyHistory.Toml
