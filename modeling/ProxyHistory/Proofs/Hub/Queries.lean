import ProxyHistory.Proofs.Base64
import ProxyHistory.Proofs.Form
import ProxyHistory.Proofs.Hub.Atomicity
import ProxyHistory.Proofs.Json.Records

/-!
# Queries as they are sent

A query may be sent as a form, in Base64, or as JSON. Either way the hub reads the query as it was,
whatever characters it holds and however the body spells them, and leaves its history alone.
-/

namespace ProxyHistory.Hub

/-- The body is not too large to be read. -/
def Fits (request : Request) : Prop :=
  request.body.length ≤ bodyLimit

instance : DecidablePred Fits := fun request =>
  inferInstanceAs (Decidable (request.body.length ≤ bodyLimit))

/-- The request sends a query as a form. -/
structure SendsForm (request : Request) (query : Text) : Prop where
  posted : request.method = "POST".toList
  on_path : request.path = "/query".toList
  typed : request.hasForm = true
  spelled : Form.WritesField request.body ("query".toList, Base64.encode (Text.encode query))

/-- The request sends a query as JSON: a record of it, in front of anything. -/
structure SendsJson (request : Request) (query : Text) : Prop where
  posted : request.method = "POST".toList
  on_path : request.path = "/api/query".toList
  typed : request.hasJson = true
  written : ∃ rest, Json.StartsWith (Json.WritesRecord queryFields) (Text.decode request.body)
    [.string query] rest

/-! ## Bodies -/

theorem readEncodedQuery_spelled {body : List UInt8} {query : Text}
    (spelled : Form.WritesField body ("query".toList, Base64.encode (Text.encode query))) :
    readEncodedQuery body = .ok query := by
  have parsed := Form.parse_intercalate (.cons spelled .nil)
  rw [List.intercalate_singleton] at parsed
  have found : onlyField queryName [("query".toList, Base64.encode (Text.encode query))] =
      .ok (Base64.encode (Text.encode query)) := rfl
  rw [readEncodedQuery, parsed, found]
  simp only [Base64.trim_encode, Base64.decode_encode, Text.decode?_encode]

theorem areFields_queryFields : Json.AreFields queryFields :=
  ⟨by decide, by decide⟩

theorem readQuery_written {body : List UInt8} {query : Text} {rest : RawText}
    (starts : Json.StartsWith (Json.WritesRecord queryFields) (Text.decode body) [.string query]
      rest) : readQuery body = .ok query := by
  have read : Json.readRecord Json.depthLimit queryFields (Text.decode body) =
      .ok ([.string query], rest) := by
    generalize Text.decode body = text at starts
    generalize [Json.string query] = values at starts
    obtain ⟨isGap, written⟩ := starts
    obtain ⟨item, writes, record⟩ := written
    rw [Json.reader_gap (Json.readRecord_skips queryFields) isGap]
    exact (Json.isDecision_item areFields_queryFields (by decide) writes rest).eq_ok record
      fun other is => is.unique record
  rw [readQuery, read]

/-! ## Requests -/

variable (hub : Hub) {request : Request} {query : Text}

/-- The reply to a query that is sent in the body of a request. -/
def replyTo (request : Request) (query : Text) : Reply :=
  if Fits request then hub.runQuery query else Rejection.tooLarge.reply

/-- Wherever a query is read from the body, it is answered unless the body is too large. -/
theorem handle_of_read {endpoint : Endpoint} {admitted : Except Reply (List UInt8)}
    {read : List UInt8 → Except Reply Text} (posted : request.method = "POST".toList)
    (routed : route "POST".toList request.path = .ok endpoint)
    (served : hub.serve request endpoint = do
      let query ← read (← admitted)
      return (hub, hub.runQuery query))
    (admits : admitted = if request.body.length ≤ bodyLimit then .ok request.body
      else .error Rejection.tooLarge.reply)
    (reads : read request.body = .ok query) :
    hub.handle request = (hub, hub.replyTo request query) := by
  rw [handle_of_route hub request (by rw [posted]; decide) (by rw [posted]; decide)
    (by rw [posted]; exact routed), served, replyTo, admits]
  by_cases fits : request.body.length ≤ bodyLimit
  · rw [if_pos fits, if_pos (show Fits request from fits)]
    simp only [bind, Except.bind, reads]
    rfl
  · rw [if_neg fits, if_neg (show ¬ Fits request from fits)]
    rfl

theorem handle_of_sendsForm (sends : SendsForm request query) :
    hub.handle request = (hub, hub.replyTo request query) :=
  hub.handle_of_read sends.posted (by rw [sends.on_path]; rfl) rfl (admitForm_eq request sends.typed)
    (readEncodedQuery_spelled sends.spelled)

theorem handle_of_sendsJson (sends : SendsJson request query) :
    hub.handle request = (hub, hub.replyTo request query) := by
  obtain ⟨rest, starts⟩ := sends.written
  have read : hub.orRefuse .query request.body (readQuery request.body) = .ok query := by
    rw [readQuery_written starts]
    rfl
  exact hub.handle_of_read sends.posted (by rw [sends.on_path]; rfl) rfl
    (admitJson_eq request sends.typed) read

/-- A query is answered with its rows, or with what is wrong with it. -/
theorem runQuery_eq (query : Text) :
    (∀ rows, hub.engine.execute query hub.store.history = .ok rows →
        hub.runQuery query = .success 200 (.array (rows.map Row.toJson))) ∧
      ∀ error, hub.engine.execute query hub.store.history = .error error →
        hub.runQuery query = .refusal error.message := by
  constructor
  · intro rows executed
    rw [runQuery, executed]
  · intro error executed
    rw [runQuery, executed]

end ProxyHistory.Hub
