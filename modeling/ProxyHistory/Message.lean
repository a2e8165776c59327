import ProxyHistory.ContentType

/-!
# Messages

A raw message is a head and a body with a blank line between them. The head is a start line and
header lines.
-/

namespace ProxyHistory.Message

/-- The head and the body of a raw message. The first blank line between carriage returns parts
them; only without any such line one between bare line feeds does. -/
def split (raw : Text) : Text × Text :=
  match Text.cutAt? "\r\n\r\n".toList raw with
  | some parts => parts
  | none => (Text.cutAt? "\n\n".toList raw).getD (raw, [])

/-- The start line of a head, if there is any line. -/
def startLine? (head : Text) : Option Text :=
  (Text.lines head).head?

/-- The name and the value of a header line. -/
def header? (line : Text) : Option (Text × Text) :=
  Text.splitOnce? (· == ':') line

/-- The name of the header for content types. -/
def contentTypeName : Text := "content-type".toList

/-- The class that the first Content-Type header of a head tells. -/
def contentType (head : Text) : ContentType :=
  let headers := ((Text.lines head).drop 1).filterMap header?
  match headers.find? fun (name, _) => Text.sameIgnoringCase (Text.trim name) contentTypeName with
  | some (_, value) => ContentType.classify value
  | none => .none

end ProxyHistory.Message
