import ProxyHistory.SortedMap
import ProxyHistory.Url.Percent

/-!
# Forms

Names and values in one body: an ampersand between two of them, an equals sign between a name and
its value, a plus sign for a space, and bytes in percent encoding for most else.
-/

namespace ProxyHistory.Form

/-- Whether a character stands for itself in a form. -/
def isPlain (c : Char) : Bool :=
  c.isAlphanum || c == '*' || c == '-' || c == '.' || c == '_'

/-- The written form of a name or a value. -/
def encode (text : Text) : Text :=
  text.flatMap fun c =>
    if isPlain c then [c]
    else if c = ' ' then ['+']
    else (Text.encodeChar c).flatMap Percent.encodeByte

/-- The byte between two fields. -/
def ampersand : UInt8 := 0x26

/-- The byte between a name and its value. -/
def equals : UInt8 := 0x3D

/-- The byte that stands for a space. -/
def plus : UInt8 := 0x2B

/-- The name or the value with the given written form. -/
def decode (written : List UInt8) : Text :=
  let spaced := written.map fun byte => if byte = plus then 0x20 else byte
  Text.decodeLossy (Percent.decode spaced)

/-- The written form of names and values. -/
def render (fields : List (Text × Text)) : Text :=
  List.intercalate ['&'] (fields.map fun (name, value) => encode name ++ '=' :: encode value)

/-- The names and values of a form. -/
def parse (bytes : List UInt8) : List (Text × Text) :=
  ((bytes.splitOn ampersand).filter (!·.isEmpty)).map fun field =>
    let name := field.takeWhile (· ≠ equals)
    (decode name, decode (field.drop (name.length + 1)))

end ProxyHistory.Form
