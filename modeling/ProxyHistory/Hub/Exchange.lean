import ProxyHistory.Json.Printer
import ProxyHistory.MediaType

/-!
# Requests and replies

What a hub is asked and what it answers.
-/

namespace ProxyHistory

/-- A request to a hub. -/
structure Request where
  /-- The method as written. -/
  method : Text
  /-- The path, with its query if it has one. -/
  target : Text
  /-- The value of the header that tells the type of the body. -/
  contentType? : Option Text
  /-- The body. -/
  body : List UInt8
  deriving DecidableEq, Repr

/-- The body of a reply. -/
inductive ReplyBody
  | json (value : Json)
  | text (value : Text)
  deriving Repr

/-- A reply of a hub. -/
structure Reply where
  /-- The status code. -/
  status : Nat
  /-- The body. -/
  body : ReplyBody
  deriving Repr

namespace Request

/-- The target without its query. -/
def path (request : Request) : Text :=
  request.target.takeWhile fun c => c ≠ '?' && c ≠ '#'

/-- Whether a header value can be read as text. -/
def isReadable (value : Text) : Bool :=
  value.all fun c => c = '\t' || (0x20 ≤ c.toNat && c.toNat < 0x7F)

/-- Whether the body is said to be JSON. -/
def hasJson (request : Request) : Bool :=
  request.contentType?.any fun value =>
    isReadable value && (MediaType.parse? value).any (·.isJson)

/-- The type of forms. -/
def formType : Text := "application/x-www-form-urlencoded".toList

/-- Whether the body is said to be a form. -/
def hasForm (request : Request) : Bool :=
  request.contentType?.any fun value => isReadable value && formType.isPrefixOf value

end Request

namespace Reply

/-- A reply without a body. -/
def bare (status : Nat) : Reply where
  status := status
  body := .text []

/-- The body as text. -/
def bodyText (reply : Reply) : Text :=
  match reply.body with
  | .json value => value.compact
  | .text value => value

/-- The reply without its body. -/
def withoutBody (reply : Reply) : Reply where
  status := reply.status
  body := .text []

/-- A JSON body with a code, a message and data. -/
def envelope (status code : Nat) (message : Text) (data : Json) : Reply where
  status := status
  body := .json (.ofMembers
    [("code".toList, .integer code), ("message".toList, .string message), ("data".toList, data)])

/-- The reply that gives data. -/
def success (status : Nat) (data : Json) : Reply :=
  envelope status 200 "success".toList data

/-- The reply to a request whose content is refused. -/
def refusal (message : Text) : Reply :=
  envelope 400 400 message .null

end Reply

/-- Why the server refuses a request by itself. -/
inductive Rejection
  /-- Nothing answers to the path. -/
  | unknownPath
  /-- Nothing answers to the method on the path. -/
  | unknownMethod
  /-- The body is not said to be JSON. -/
  | notJson
  /-- The body is not said to be a form. -/
  | notForm
  | tooLarge
  /-- The body is no JSON. -/
  | faultyJson (details : Text)
  /-- The body is JSON of another shape. -/
  | misshapenJson (details : Text)
  /-- A field of the form is missing. -/
  | missingField (name : Text)
  /-- A field of the form comes twice. -/
  | repeatedField (name : Text)
  deriving DecidableEq, Repr

namespace Rejection

/-- The status code of the reply. -/
def status : Rejection → Nat
  | unknownPath => 404
  | unknownMethod => 405
  | notJson | notForm => 415
  | tooLarge => 413
  | faultyJson _ => 400
  | misshapenJson _ | missingField _ | repeatedField _ => 422

/-- The rejection in words. -/
def message : Rejection → Text
  | unknownPath | unknownMethod => []
  | notJson => "Expected request with \x60Content-Type: application/json\x60".toList
  | notForm =>
      "Form requests must have \x60Content-Type: application/x-www-form-urlencoded\x60".toList
  | tooLarge => "Failed to buffer the request body: length limit exceeded".toList
  | faultyJson details => "Failed to parse the request body as JSON: ".toList ++ details
  | misshapenJson details =>
      "Failed to deserialize the JSON body into the target type: ".toList ++ details
  | missingField name =>
      "Failed to deserialize form body: missing field \x60".toList ++ name ++ "\x60".toList
  | repeatedField name =>
      "Failed to deserialize form body: duplicate field \x60".toList ++ name ++ "\x60".toList

/-- The reply. -/
def reply (rejection : Rejection) : Reply where
  status := rejection.status
  body := .text rejection.message

end Rejection

end ProxyHistory
