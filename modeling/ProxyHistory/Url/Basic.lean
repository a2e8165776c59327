import ProxyHistory.Text.Numeral
import ProxyHistory.Url.Host
import ProxyHistory.Url.Path

/-!
# URLs

An absolute URL, taken apart and normalized: its scheme and host are in lower case, its path is
resolved, and what may not stand in it is encoded. Certain schemes are special: their URLs name a
host, a backslash counts as a slash in them, and each has a standard port that is left out.
-/

namespace ProxyHistory

/-- What stands between the two slashes and the path. -/
structure Authority where
  /-- The user name and the password in their written form, with the sign after them. -/
  credentials : Text
  /-- The host; empty if there is none. -/
  host : Text
  /-- The port, if it is not the standard one. -/
  port? : Option Nat
  deriving DecidableEq, Repr

/-- An absolute URL. -/
structure Url where
  /-- The scheme in lower case. -/
  scheme : Text
  /-- The authority; URLs without one need not have a hierarchy. -/
  authority? : Option Authority
  /-- The path. -/
  path : Text
  /-- The query, without the question mark in front of it. -/
  query? : Option Text
  /-- The fragment, without the number sign in front of it. -/
  fragment? : Option Text
  deriving DecidableEq, Repr

namespace Url

/-- The host; empty if there is none. -/
def host (url : Url) : Text :=
  (url.authority?.map (·.host)).getD []

/-- The query; empty if there is none. -/
def query (url : Url) : Text :=
  url.query?.getD []

/-- The written form of a port. -/
def writePort (port? : Option Nat) : Text :=
  match port? with
  | some port => ':' :: Text.ofNat port
  | none => []

/-- The written form of an authority. -/
def renderAuthority (authority : Authority) : Text :=
  "//".toList ++ authority.credentials ++ authority.host ++ writePort authority.port?

/-- The written form of a path without an authority. It may not start with two slashes, so a segment
that stands for nothing goes in front of it. -/
def writePath (path : Text) : Text :=
  (if "//".toList.isPrefixOf path then "/.".toList else []) ++ path

/-- All that comes before the query. -/
def renderFront (url : Url) : Text :=
  url.scheme ++ ':' ::
    match url.authority? with
    | some authority => renderAuthority authority ++ url.path
    | none => writePath url.path

/-- The written form of a URL. -/
def render (url : Url) : Text :=
  renderFront url ++
    (match url.query? with
      | some query => '?' :: query
      | none => []) ++
    match url.fragment? with
    | some fragment => '#' :: fragment
    | none => []

/-- What a scheme says about its URLs. -/
inductive SchemeKind
  /-- The URLs name a host, and have the given standard port. -/
  | network (port : Nat)
  /-- The URLs name files. -/
  | file
  | other
  deriving DecidableEq, Repr

/-- The schemes of networks and their standard ports. -/
def standardPorts : List (Text × Nat) :=
  [("http".toList, 80), ("https".toList, 443), ("ws".toList, 80), ("wss".toList, 443),
    ("ftp".toList, 21)]

/-- What the given scheme says. -/
def SchemeKind.ofScheme (scheme : Text) : SchemeKind :=
  match standardPorts.lookup scheme with
  | some port => .network port
  | none => if scheme = "file".toList then .file else .other

/-- Whether a scheme is special. -/
def SchemeKind.isSpecial : SchemeKind → Bool
  | .network _ | .file => true
  | .other => false

/-- Whether a character counts as a slash. -/
def SchemeKind.isSlash (kind : SchemeKind) (c : Char) : Bool :=
  c == '/' || (kind.isSpecial && c == '\\')

/-- The parts before and after the last character that separates. -/
def splitLast? (separates : Char → Bool) (text : Text) : Option (Text × Text) :=
  (Text.splitOnce? separates text.reverse).map fun (after, before) =>
    (before.reverse, after.reverse)

/-- The written form of the text in front of the sign that ends a user name and a password. The
first colon parts them. -/
def writeCredentials (text : Text) : Text :=
  let encode := Percent.encode Percent.inCredentials
  let written :=
    match Text.splitOnce? (· == ':') text with
    | some (user, password) =>
        encode user ++ if password.isEmpty then [] else ':' :: encode password
    | none => encode text
  if written.isEmpty then [] else written ++ ['@']

/-- Split a text at the first colon that is not in brackets. -/
def splitPort (inBrackets : Bool) : Text → Text × Option Text
  | [] => ([], none)
  | c :: rest =>
      if c = ':' ∧ !inBrackets then
        ([], some rest)
      else
        let inBrackets := if c = '[' then true else if c = ']' then false else inBrackets
        let (host, port?) := splitPort inBrackets rest
        (c :: host, port?)

/-- A port, if it is given and is not the standard one, and what follows it. Only a backslash may
follow. -/
def readPort (standard? : Option Nat) (text : Text) : Except UrlError (Option Nat × Text) :=
  let digits := text.takeWhile Char.isDigit
  let rest := text.dropWhile Char.isDigit
  let port := (Text.digits? digits).getD 0
  if 65535 < port ∨ rest.head?.any (· ≠ '\\') then
    .error .invalidPort
  else
    .ok (if digits.isEmpty ∨ some port = standard? then none else some port, rest)

/-- The credentials of an authority, and what follows them. An authority may not consist of the sign
that ends them if anything follows it. -/
def readCredentials (followed : Bool) (text : Text) : Except UrlError (Text × Text) :=
  match splitLast? (· == '@') text with
  | none => .ok ([], text)
  | some (credentials, rest) =>
      if credentials.isEmpty && rest.isEmpty && followed then .error .emptyHost
      else .ok (writeCredentials credentials, rest)

/-- A host. The URLs of special schemes name one. -/
def readHost (kind : SchemeKind) (text : Text) : Except UrlError Text :=
  if !kind.isSpecial then Host.readOpaque text
  else if text.isEmpty then .error .emptyHost
  else Host.read text

/-- An authority, and the part of its text that belongs to the path. -/
def readAuthority (kind : SchemeKind) (followed : Bool) (text : Text) :
    Except UrlError (Authority × Text) := do
  let (credentials, text) ← readCredentials followed text
  let (hostText, portText?) := splitPort false text
  let host ← readHost kind hostText
  if host.isEmpty ∧ portText?.isSome then
    throw .emptyHost
  let standard? := match kind with
    | .network port => some port
    | _ => none
  let (port?, rest) ← match portText? with
    | some portText => readPort standard? portText
    | none => pure (none, [])
  if host.isEmpty ∧ !credentials.isEmpty then
    throw .emptyHost
  return (⟨credentials, host, port?⟩, rest)

/-- The authority and the path of a URL without a query and a fragment. -/
abbrev Hierarchy := Option Authority × Text

/-- Drop one slash in front. -/
def dropSlash (kind : SchemeKind) (text : Text) : Text :=
  if text.head?.any kind.isSlash then text.drop 1 else text

/-- What follows the scheme of a network. -/
def readNetwork (kind : SchemeKind) (followed : Bool) (text : Text) :
    Except UrlError Hierarchy := do
  let text := text.dropWhile kind.isSlash
  let rest := text.dropWhile (!kind.isSlash ·)
  let (authority, _) ←
    readAuthority kind (followed || !rest.isEmpty) (text.takeWhile (!kind.isSlash ·))
  return (some authority, Path.read kind.isSlash (dropSlash kind rest))

/-- An authority that is a host alone. -/
def hostAlone (host : Text) : Authority :=
  ⟨[], host, none⟩

/-- What follows the scheme of a file. After two slashes there may be a host, unless it would be a
drive letter; the local host counts as none, and a path that starts with a drive letter has none. -/
def readFile (text : Text) : Except UrlError Hierarchy :=
  let kind := SchemeKind.file
  let withoutHost (text : Text) : Hierarchy :=
    (some (hostAlone []), (Path.readFile kind.isSlash text).1)
  match text with
  | [] => .ok (withoutHost [])
  | [c] => .ok (withoutHost (dropSlash kind [c]))
  | first :: second :: rest =>
      if kind.isSlash first && kind.isSlash second then
        let hostText := rest.takeWhile (!kind.isSlash ·)
        let after := rest.dropWhile (!kind.isSlash ·)
        if hostText.isEmpty || Path.isDrive hostText then
          .ok (withoutHost rest)
        else do
          let host ← Host.read hostText
          if host = "localhost".toList then
            return withoutHost after
          let (path, onDrive) := Path.readFile kind.isSlash (dropSlash kind after)
          return (some (hostAlone (if onDrive then [] else host)), path)
      else
        .ok (withoutHost (dropSlash kind (first :: second :: rest)))

/-- What follows any other scheme: an authority after two slashes, a path after one, or a text
without a hierarchy. -/
def readOther (followed : Bool) (text : Text) : Except UrlError Hierarchy :=
  let kind := SchemeKind.other
  match text with
  | '/' :: '/' :: text => do
      let after := text.dropWhile (!kind.isSlash ·)
      let (authority, rest) ←
        readAuthority kind (followed || !after.isEmpty) (text.takeWhile (!kind.isSlash ·))
      let text := rest ++ after
      return (some authority,
        if text.isEmpty then [] else Path.read kind.isSlash (dropSlash kind text))
  | '/' :: text => .ok (none, Path.read kind.isSlash text)
  | _ => .ok (none, Percent.encode Percent.inControls text)

/-- The characters of schemes after the first one. -/
def isSchemeChar (c : Char) : Bool :=
  c.isAlphanum || c == '+' || c == '-' || c == '.'

/-- A scheme in lower case and what follows its colon. -/
def readScheme? (text : Text) : Option (Text × Text) :=
  if text.head?.any Char.isAlpha then
    match text.dropWhile isSchemeChar with
    | ':' :: rest => some (Text.asciiLower (text.takeWhile isSchemeChar), rest)
    | _ => none
  else
    none

/-- The text without controls and spaces at its ends, and without tabs and line ends. -/
def clean (text : Text) : Text :=
  let passedOver (c : Char) := c.toNat ≤ 0x20
  (((text.dropWhile passedOver).reverse.dropWhile passedOver).reverse).filter fun c =>
    !(c == '\t' || c == '\n' || c == '\r')

/-- Split a text at the first occurrence of a character, if it occurs. -/
def splitTail (mark : Char) (text : Text) : Text × Option Text :=
  match Text.splitOnce? (· == mark) text with
  | some (before, after) => (before, some after)
  | none => (text, none)

/-- Read an absolute URL. -/
def parse (input : Text) : Except UrlError Url := do
  let some (scheme, text) := readScheme? (clean input) | throw .relative
  let kind := SchemeKind.ofScheme scheme
  let (text, fragment?) := splitTail '#' text
  let (text, query?) := splitTail '?' text
  let followed := query?.isSome || fragment?.isSome
  let (authority?, path) ←
    match kind with
    | .network _ => readNetwork kind followed text
    | .file => readFile text
    | .other => readOther followed text
  let inQuery := if kind.isSpecial then Percent.inSpecialQuery else Percent.inQuery
  return {
    scheme
    authority?
    path
    query? := query?.map (Percent.encode inQuery)
    fragment? := fragment?.map (Percent.encode Percent.inFragment) }

end Url

end ProxyHistory
