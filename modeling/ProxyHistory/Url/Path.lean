import ProxyHistory.Url.Percent

/-!
# Paths

A hierarchical path is a slash and segments with slashes between them. Segments that stand for the
current and the parent directory are resolved when the path is read. A drive letter is never left
through a parent segment.
-/

namespace ProxyHistory.Path

/-- Whether two characters in front name a drive, with nothing of a segment after them. -/
def namesDrive : Text → Bool
  | [letter, mark] => letter.isAlpha && (mark == ':' || mark == '|')
  | letter :: mark :: next :: _ => letter.isAlpha && (mark == ':' || mark == '|') && next == '\\'
  | _ => false

/-- Whether a segment is a drive letter and its mark. -/
def isDrive (segment : Text) : Bool :=
  segment.length == 2 && namesDrive segment

/-- A segment with each encoded dot replaced by a dot. -/
def decodeDots : Text → Text
  | '%' :: '2' :: 'e' :: rest | '%' :: '2' :: 'E' :: rest => '.' :: decodeDots rest
  | c :: rest => c :: decodeDots rest
  | [] => []

/-- Whether a segment stands for the current directory. -/
def isCurrent (segment : Text) : Bool :=
  decodeDots segment == ['.']

/-- Whether a segment stands for the parent directory. -/
def isParent (segment : Text) : Bool :=
  decodeDots segment == ['.', '.']

/-- Leave a directory. The segments are given backwards. -/
def leave : List Text → List Text
  | [] => []
  | segment :: before => if namesDrive segment then segment :: before else before

/-- Resolve segments after the given ones, which are given backwards. A last segment that stands for
a directory leaves an empty one behind. -/
def resolve (before : List Text) : List Text → List Text
  | [] => before.reverse
  | [last] =>
      let all :=
        if isParent last then [] :: leave before
        else if isCurrent last then [] :: before
        else last :: before
      all.reverse
  | segment :: next :: rest =>
      let before :=
        if isParent segment then leave before
        else if isCurrent segment then before
        else segment :: before
      resolve before (next :: rest)

/-- A path of the given segments. -/
def render (segments : List Text) : Text :=
  '/' :: List.intercalate ['/'] segments

/-- The path that a text stands for, which is given without its first slash. -/
def read (isSlash : Char → Bool) (text : Text) : Text :=
  render (resolve [] ((text.splitOnP isSlash).map (Percent.encode Percent.inPath)))

/-- The path of a file, and whether it starts with a drive letter. The mark of the drive becomes a
colon, and a drive letter that runs into a name is set off from it. Empty segments in front are left
out. -/
def readFile (isSlash : Char → Bool) (text : Text) : Text × Bool :=
  let segments := (text.splitOnP isSlash).map (Percent.encode Percent.inPath)
  let (onDrive, segments) :=
    match segments with
    | [letter, mark] :: rest =>
        if isDrive [letter, mark] then (true, resolve [] ([letter, ':'] :: rest))
        else (false, resolve [] segments)
    | (letter :: ':' :: name) :: rest =>
        if letter.isAlpha then (false, resolve [name, [letter, ':']] rest)
        else (false, resolve [] segments)
    | _ => (false, resolve [] segments)
  ('/' :: (render segments).dropWhile (· == '/'), onDrive)

end ProxyHistory.Path
