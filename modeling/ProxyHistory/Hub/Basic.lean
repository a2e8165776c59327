import ProxyHistory.Base64
import ProxyHistory.Engine
import ProxyHistory.Form
import ProxyHistory.Hub.Exchange
import ProxyHistory.Json.Record
import ProxyHistory.Store
import ProxyHistory.Text.Utf8

/-!
# The hub

A hub keeps a history and answers requests: it records transactions, drops them, runs queries
against them, and reports on itself. A request is answered as a whole; one that is refused changes
nothing.
-/

namespace ProxyHistory

/-- What can be asked of a hub. -/
inductive Endpoint
  | greeting
  | encodedQuery
  | query
  | record
  | clear
  | status
  deriving DecidableEq, Repr

/-- A hub. -/
structure Hub where
  /-- What runs the queries. -/
  engine : Engine
  /-- The recorded transactions. -/
  store : Store
  /-- The point in time at which the hub was started, as text. -/
  startedAt : Text
  /-- The number of seconds since then. -/
  uptime : Nat
  /-- What the server says of a JSON body in which it does not find what an endpoint needs. -/
  explain : Endpoint → List UInt8 → Text

namespace Hub

/-- The version that a hub reports. -/
def version : Text := "0.1.0".toList

/-- The text that greets visitors. -/
def greeting : Text := "hq hub: proxy history query server is running".toList

/-- The greatest number of bytes of a body. -/
def bodyLimit : Nat := 2 * Nat.pow 2 20

/-- A hub with an empty history and the fields that are always there. -/
def create (capacity : Nat) (policy : WherePolicy) (startedAt : Text)
    (explain : Endpoint → List UInt8 → Text) : Hub where
  engine := ⟨.builtin, policy⟩
  store := .ofCapacity capacity
  startedAt := startedAt
  uptime := 0
  explain := explain

/-- The refusal of a JSON body. -/
def refuseBody (details : Text) : Json.ReadError → Rejection
  | .faulty _ _ _ => .faultyJson details
  | .misshapen => .misshapenJson details

/-- What was read of the JSON body of a request, unless that failed. -/
def orRefuse {α : Type} (hub : Hub) (endpoint : Endpoint) (body : List UInt8)
    (read : Except Json.ReadError α) : Except Reply α :=
  read.mapError fun error => (refuseBody (hub.explain endpoint body) error).reply

/-- The answer to a query. -/
def runQuery (hub : Hub) (query : Text) : Reply :=
  match hub.engine.execute query hub.store.history with
  | .ok rows => .success 200 (.array (rows.map Row.toJson))
  | .error error => .refusal error.message

/-- The name of the field that holds a query. -/
def queryName : Text := "query".toList

/-- The value of the only field of a form with a name. -/
def onlyField (name : Text) (fields : List (Text × Text)) : Except Rejection Text :=
  match fields.filter (·.1 == name) with
  | [] => .error (.missingField name)
  | [(_, value)] => .ok value
  | _ => .error (.repeatedField name)

/-- The query that a form holds in Base64. -/
def readEncodedQuery (body : List UInt8) : Except Reply Text :=
  match onlyField queryName (Form.parse body) with
  | .error rejection => .error rejection.reply
  | .ok encoded =>
      match Base64.decode (Text.encode (Text.trim encoded)) with
      | .error error => .error (.refusal ("query is not valid base64: ".toList ++ error.message))
      | .ok bytes =>
          match Text.decode? bytes with
          | none => .error (.refusal "query is not valid UTF-8".toList)
          | some query => .ok query

/-- The fields of a query in JSON. -/
def queryFields : List Json.Field :=
  [⟨queryName, .string, false⟩]

/-- The query that a JSON body holds. What follows the value does not matter. -/
def readQuery (body : List UInt8) : Except Json.ReadError Text :=
  match Json.readRecord Json.depthLimit queryFields (Text.decode body) with
  | .error error => .error error
  | .ok ([.string query], _) => .ok query
  | .ok _ => .error .misshapen

/-- The fields of a recorded exchange in JSON. -/
def exchangeFields : List Json.Field :=
  [⟨"url".toList, .string, false⟩, ⟨"request".toList, .string, false⟩,
    ⟨"response".toList, .string, true⟩]

/-- An exchange as it is recorded. -/
structure Exchange where
  /-- The URL of the request. -/
  url : Text
  /-- The raw request. -/
  request : Text
  /-- The raw response, if there was one. -/
  response? : Option Text
  deriving DecidableEq, Repr

/-- The exchange with the given values of its fields. -/
def Exchange.ofValues? : List Json → Option Exchange
  | [.string url, .string request, .string response] => some ⟨url, request, some response⟩
  | [.string url, .string request, .null] => some ⟨url, request, none⟩
  | _ => none

/-- The exchanges that a JSON body holds. What follows the value does not matter. -/
def readExchanges (body : List UInt8) : Except Json.ReadError (List Exchange) :=
  match Json.readRecords Json.depthLimit exchangeFields (Text.decode body) with
  | .error error => .error error
  | .ok (records, _) =>
      match records.mapM Exchange.ofValues? with
      | some exchanges => .ok exchanges
      | none => .error .misshapen

/-- The transactions of exchanges, of which the first has the given index. The first that makes up
none is reported. -/
def buildAll (index : Nat) : List Exchange → Except Reply (List Transaction)
  | [] => .ok []
  | exchange :: rest =>
      match Transaction.ofMessages exchange.url exchange.request exchange.response? with
      | .error error =>
          .error (.refusal
            ("record ".toList ++ Text.ofNat index ++ ": ".toList ++ error.message))
      | .ok transaction => (buildAll (index + 1) rest).map (transaction :: ·)

/-- Record all exchanges of a JSON body, or none. -/
def record (hub : Hub) (body : List UInt8) : Except Reply (Hub × Reply) := do
  let exchanges ← hub.orRefuse .record body (readExchanges body)
  let transactions ← buildAll 0 exchanges
  let store := hub.store.recordAll transactions
  let summary := Json.ofMembers
    [("recorded".toList, .integer transactions.length), ("stored".toList, .integer store.size)]
  return ({ hub with store }, .success 202 summary)

/-- The report of a hub on itself. -/
def status (hub : Hub) : Json :=
  .ofMembers
    [("version".toList, .string version),
      ("started_at".toList, .string hub.startedAt),
      ("uptime_seconds".toList, .integer hub.uptime),
      ("transactions".toList, .integer hub.store.size),
      ("capacity".toList, .integer hub.store.capacity),
      ("require_where".toList, .bool (hub.engine.policy = .required))]

/-- The methods of each path and what they ask for. -/
def routes : List (Text × List (Text × Endpoint)) :=
  [("/".toList, [("GET".toList, .greeting)]),
    ("/query".toList, [("POST".toList, .encodedQuery)]),
    ("/api/query".toList, [("POST".toList, .query)]),
    ("/api/history".toList, [("POST".toList, .record), ("DELETE".toList, .clear)]),
    ("/api/status".toList, [("GET".toList, .status)])]

/-- What a method asks for on a path. -/
def route (method path : Text) : Except Rejection Endpoint :=
  match routes.lookup path with
  | none => .error .unknownPath
  | some methods =>
      match methods.lookup method with
      | none => .error .unknownMethod
      | some endpoint => .ok endpoint

/-- The body of a request, if it has the right type and is not too large. -/
def admitBody (request : Request) (hasType : Bool) (otherwise : Rejection) :
    Except Rejection (List UInt8) :=
  if !hasType then .error otherwise
  else if bodyLimit < request.body.length then .error .tooLarge
  else .ok request.body

/-- The body of a request that should be JSON. -/
def admitJson (request : Request) : Except Reply (List UInt8) :=
  (admitBody request request.hasJson .notJson).mapError Rejection.reply

/-- The body of a request that should be a form. -/
def admitForm (request : Request) : Except Reply (List UInt8) :=
  (admitBody request request.hasForm .notForm).mapError Rejection.reply

/-- Do what an endpoint asks for. -/
def serve (hub : Hub) (request : Request) : Endpoint → Except Reply (Hub × Reply)
  | .greeting => .ok (hub, ⟨200, .text greeting⟩)
  | .encodedQuery => do
      let query ← readEncodedQuery (← admitForm request)
      return (hub, hub.runQuery query)
  | .query => do
      let body ← admitJson request
      let query ← hub.orRefuse .query body (readQuery body)
      return (hub, hub.runQuery query)
  | .record => do hub.record (← admitJson request)
  | .clear => .ok ({ hub with store := hub.store.clear }, .bare 204)
  | .status => .ok (hub, ⟨200, .json hub.status⟩)

/-- Answer a request that goes to a route. -/
def answer (hub : Hub) (request : Request) (method : Text) : Hub × Reply :=
  match route method request.path with
  | .error rejection => (hub, rejection.reply)
  | .ok endpoint =>
      match hub.serve request endpoint with
      | .error reply => (hub, reply)
      | .ok result => result

/-- Answer a request. A request for headers alone is answered as one for the whole, without the
body; a request for the options of a path is always granted. -/
def handle (hub : Hub) (request : Request) : Hub × Reply :=
  if request.method = "OPTIONS".toList then
    (hub, .bare 200)
  else if request.method = "HEAD".toList then
    let (hub, reply) := hub.answer request "GET".toList
    (hub, reply.withoutBody)
  else
    hub.answer request request.method

end Hub

end ProxyHistory
