import ProxyHistory.Client.Assembly
import ProxyHistory.Client.Report
import ProxyHistory.Hub.Basic

/-!
# Commands

What a user can ask the client for. Each command is at most one request to a hub, and what it prints
is made of the reply.
-/

namespace ProxyHistory.Client

/-- What is known of a file that a command names. -/
inductive FileContent
  | content (text : Text)
  /-- There is no such file. -/
  | missing
  /-- The file cannot be read. -/
  | unreadable (reason : Text)
  deriving DecidableEq, Repr

/-- A command of the client. -/
inductive Command
  /-- Query for fields under conditions. -/
  | query (fields : List Text) (conditions : Text) (limit : Nat) (asJson : Bool)
  /-- Run a query text as it is. -/
  | raw (query : Text) (asJson : Bool)
  /-- Record the transactions of a file. -/
  | ingest (file : Text) (content : FileContent)
  /-- Print the report of the hub on itself. -/
  | status
  deriving DecidableEq, Repr

/-- The media type of JSON. -/
def jsonType : Text := "application/json".toList

/-- The request that sends a query as a form. -/
def formRequest (query : Text) : Request where
  method := "POST".toList
  target := "/query".toList
  contentType? := some Request.formType
  body := Text.encode (Form.render [("query".toList, Base64.encode (Text.encode query))])

/-- The request that sends JSON to a path. -/
def jsonRequest (path : String) (body : Json) : Request where
  method := "POST".toList
  target := path.toList
  contentType? := some jsonType
  body := Text.encode body.compact

/-- The request that sends a query as JSON. -/
def queryRequest (query : Text) : Request :=
  jsonRequest "/api/query" (.ofMembers [("query".toList, .string query)])

/-- The request for the report of the hub on itself. -/
def statusRequest : Request where
  method := "GET".toList
  target := "/api/status".toList
  contentType? := none
  body := []

/-- The JSON array in a file. -/
def readArray (file : Text) : FileContent → Except ClientError Json
  | .missing => .error (.missingFile file)
  | .unreadable reason => .error (.unreadableFile file reason)
  | .content text =>
      match Json.parse text with
      | .error error => .error (.notJson file (error.message text))
      | .ok (.array items) => .ok (.array items)
      | .ok _ => .error (.notArray file)

/-- What is printed of the summary of a recording. -/
def renderSummary (envelope : Envelope) : Text :=
  "Recorded ".toList ++ (envelope.data.member "recorded".toList).compact ++
    " transactions (".toList ++ (envelope.data.member "stored".toList).compact ++ " stored)".toList

/-- The request of a command, and what it prints when it gets a reply. -/
structure Plan where
  /-- The request. -/
  request : Request
  /-- What is printed of a reply with a status and a body. -/
  print : Nat → Text → Except ClientError Text

/-- The plan of a command, unless it is refused without a request. -/
def Command.plan : Command → Except ClientError Plan
  | .query fields conditions limit asJson => do
      let fields := fields.map Text.trim
      checkInput .builtin fields conditions
      return ⟨formRequest (buildQuery fields conditions limit), fun status body => do
        return renderRows (← Envelope.ofReply status body) fields asJson⟩
  | .raw text asJson =>
      return ⟨queryRequest text, fun status body => do
        return renderRows (← Envelope.ofReply status body) [] asJson⟩
  | .ingest file content => do
      let payload ← readArray file content
      return ⟨jsonRequest "/api/history" payload, fun status body => do
        return renderSummary (← Envelope.ofReply status body)⟩
  | .status =>
      return ⟨statusRequest, fun _ body =>
        match Json.parse body with
        | .ok value => .ok value.pretty
        | .error error => .error (.unexpectedReply (error.message body))⟩

/-- Run a command against a hub. -/
def Command.run (command : Command) (hub : Hub) : Hub × Except ClientError Text :=
  match command.plan with
  | .error error => (hub, .error error)
  | .ok plan =>
      let (hub, reply) := hub.handle plan.request
      (hub, plan.print reply.status reply.bodyText)

end ProxyHistory.Client
