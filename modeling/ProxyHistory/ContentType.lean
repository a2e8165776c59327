import ProxyHistory.Text.Basic

/-!
# Content types

The classes into which the values of Content-Type headers fall. Conditions on a content type compare
classes, never header text.
-/

namespace ProxyHistory

/-- The class of a message body. -/
inductive ContentType
  /-- There is no header, or it is blank. -/
  | none
  /-- The header names none of the other classes. -/
  | unknown
  | urlEncoded
  | multipart
  | json
  | xml
  | html
  | text
  | amf
  deriving DecidableEq, Repr

namespace ContentType

/-- The class of a header value: of the marks that it contains in any ASCII case, the first in this
order decides. -/
def classify (header : Text) : ContentType :=
  let value := Text.asciiLower (Text.trim header)
  if value.isEmpty then .none
  else if Text.includes value "json".toList then .json
  else if Text.includes value "xml".toList then .xml
  else if Text.includes value "html".toList then .html
  else if Text.includes value "x-www-form-urlencoded".toList then .urlEncoded
  else if Text.includes value "multipart".toList then .multipart
  else if Text.includes value "amf".toList then .amf
  else if "text/".toList.isPrefixOf value then .text
  else .unknown

/-- The token that stands for a class wherever it is written out. -/
def token : ContentType → Text
  | .none => "NONE".toList
  | .unknown => "UNKNOWN".toList
  | .urlEncoded => "URL_ENCODED".toList
  | .multipart => "MULTIPART".toList
  | .json => "JSON".toList
  | .xml => "XML".toList
  | .html => "HTML".toList
  | .text => "TEXT".toList
  | .amf => "AMF".toList

end ContentType

end ProxyHistory
