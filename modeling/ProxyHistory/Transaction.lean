import ProxyHistory.Digest
import ProxyHistory.Message
import ProxyHistory.Url.Basic

/-!
# Recorded transactions

A transaction is a request that was recorded, with its response if there was one. It is built from
the raw messages and from the URL of the request, which it holds in normalized form.
-/

namespace ProxyHistory

/-- A recorded response. -/
structure Response where
  /-- The status code of the start line. -/
  statusCode : UInt16
  /-- The class of the body. -/
  contentType : ContentType
  /-- The whole message. -/
  raw : Text
  /-- The body of the message. -/
  body : Text
  deriving DecidableEq, Repr

/-- A recorded request and its response. -/
structure Transaction where
  /-- The method as written. -/
  method : Text
  /-- The absolute URL. -/
  url : Text
  /-- The host of the URL. -/
  host : Text
  /-- The path of the URL. -/
  path : Text
  /-- The query of the URL without its question mark; empty if there is none. -/
  query : Text
  /-- The whole request message. -/
  request : Text
  /-- The body of the request. -/
  requestBody : Text
  /-- The class of the request body. -/
  requestContentType : ContentType
  /-- The response, if there was one. -/
  response? : Option Response
  deriving DecidableEq, Repr

/-- Why messages make up no transaction. -/
inductive TransactionError
  /-- The URL, without the blanks around it, is none. -/
  | badUrl (url : Text) (reason : UrlError)
  | missingRequestLine
  /-- The start line of a response has no status code. -/
  | badStatusLine (line : Text)
  deriving DecidableEq, Repr

/-- The error in words. -/
def TransactionError.message (error : TransactionError) : Text :=
  "Invalid transaction: ".toList ++
    match error with
    | .badUrl url reason => "bad url '".toList ++ url ++ "': ".toList ++ reason.message
    | .missingRequestLine => "missing request line".toList
    | .badStatusLine line => "bad status line '".toList ++ line ++ "'".toList

namespace Response

/-- The status code in a start line: the second word, if it is a number of sixteen bits. -/
def readStatusCode? (line : Text) : Option UInt16 :=
  ((Text.words line)[1]?.bind (Text.natural? (Nat.pow 2 16))).map UInt16.ofNat

/-- Read a raw response. -/
def ofMessage (raw : Text) : Except TransactionError Response :=
  let (head, body) := Message.split raw
  let line := (Message.startLine? head).getD []
  match readStatusCode? line with
  | some statusCode => .ok ⟨statusCode, Message.contentType head, raw, body⟩
  | none => .error (.badStatusLine (Text.trim line))

end Response

namespace Transaction

/-- Build a transaction from the URL of a request, the raw request and the raw response. -/
def ofMessages (url request : Text) (response? : Option Text) :
    Except TransactionError Transaction := do
  let parsed ←
    match Url.parse (Text.trim url) with
    | .ok parsed => pure parsed
    | .error reason => throw (.badUrl (Text.trim url) reason)
  let (head, body) := Message.split request
  let some method := ((Message.startLine? head).map Text.words).bind (·.head?)
    | throw .missingRequestLine
  let response? ← response?.mapM Response.ofMessage
  return {
    method
    url := parsed.render
    host := parsed.host
    path := parsed.path
    query := parsed.query
    request
    requestBody := body
    requestContentType := Message.contentType head
    response? }

/-- The text in front of the first occurrence of the query, or the whole text if the query is
empty. -/
def cutQuery (url query : Text) : Text :=
  if query.isEmpty then url else ((Text.cutAt? query url).map (·.1)).getD url

/-- The text by which a request is told from others. -/
def identity (transaction : Transaction) : Text :=
  transaction.method ++ cutQuery transaction.url transaction.query ++ transaction.query ++
    transaction.requestBody

/-- The digest by which a request is told from others. -/
def fingerprint (transaction : Transaction) : Digest :=
  Digest.ofBytes (Text.encode transaction.identity)

end Transaction

end ProxyHistory
