import ProxyHistory.Text.Basic

/-!
# Media types

The kind of a message body as its sender names it: a type and a subtype, with parameters that do not
matter here.
-/

namespace ProxyHistory

/-- A media type without its parameters, in lower case. -/
structure MediaType where
  /-- The type. -/
  type : Text
  /-- The subtype, without its suffix. -/
  subtype : Text
  /-- What comes after the last plus sign of the subtype. -/
  suffix? : Option Text
  deriving DecidableEq, Repr

namespace MediaType

/-- The characters of types, subtypes and parameters. -/
def isToken (c : Char) : Bool :=
  c.isAlphanum || "!#$%&'*+-.^_\x60|~".toList.contains c

/-- The characters of quoted parameters. -/
def isQuotedChar (c : Char) : Bool :=
  0x20 ≤ c.toNat && c.toNat ≠ 0x7F

/-- Whether a text after a semicolon consists of parameters, or of spaces alone. The first argument
bounds their number. The first character in quotes may be a quote itself. -/
def areParameters : Nat → Text → Bool
  | 0, _ => false
  | fuel + 1, text =>
      let parameters := text.dropWhile (· == ' ')
      let name := parameters.takeWhile isToken
      if parameters.isEmpty then
        true
      else if name.isEmpty then
        false
      else
        match parameters.drop name.length with
        | '=' :: '"' :: first :: quoted =>
            isQuotedChar first &&
              match quoted.dropWhile fun c => isQuotedChar c && c ≠ '"' with
              | '"' :: rest =>
                  match rest.dropWhile (· == ' ') with
                  | [] => true
                  | ';' :: rest => areParameters fuel rest
                  | _ => false
              | _ => false
        | '=' :: value =>
            match value.dropWhile isToken with
            | [] => true
            | ';' :: rest => value.head? != some ';' && areParameters fuel rest
            | _ => false
        | _ => false

/-- The parts before and after the last plus sign that is not the first character. -/
def splitSuffix (subtype : Text) : Text × Option Text :=
  match Text.splitOnce? (· == '+') (subtype.drop 1).reverse with
  | some (suffix, stem) => (subtype.take 1 ++ stem.reverse, some suffix.reverse)
  | none => (subtype, none)

/-- Read a media type. -/
def parse? (text : Text) : Option MediaType := do
  let type := text.takeWhile isToken
  let '/' :: rest := text.drop type.length | none
  let full := rest.takeWhile isToken
  let parametersFit := match rest.drop full.length with
    | [] => true
    | ';' :: parameters => areParameters (parameters.length + 1) parameters
    | _ => false
  if type.isEmpty ∨ full.isEmpty ∨ !parametersFit then
    none
  else
    let (subtype, suffix?) := splitSuffix (Text.asciiLower full)
    return ⟨Text.asciiLower type, subtype, suffix?⟩

/-- Whether a body of this type is JSON. -/
def isJson (mediaType : MediaType) : Bool :=
  mediaType.type == "application".toList &&
    (mediaType.subtype == "json".toList || mediaType.suffix? == some "json".toList)

end MediaType

end ProxyHistory
