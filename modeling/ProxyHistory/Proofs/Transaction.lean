import ProxyHistory.Proofs.Steps
import ProxyHistory.Transaction

/-!
# What is recorded

A response is recorded exactly if its start line has a status code. A transaction is recorded
exactly if its URL is one, its request has a method, and its response is recorded if there is one.
-/

namespace ProxyHistory

/-- The transaction that is recorded of an exchange with the URL, the method, the request and the
response. -/
def Transaction.ofParts (url : Url) (method request : Text) (response? : Option Response) :
    Transaction where
  method
  url := url.render
  host := url.host
  path := url.path
  query := url.query
  request
  requestBody := (Message.split request).2
  requestContentType := Message.contentType (Message.split request).1
  response?

theorem Response.ofMessage_eq_ok_iff {raw : Text} {response : Response} :
    ofMessage raw = .ok response ↔
      ∃ statusCode,
        readStatusCode? ((Message.startLine? (Message.split raw).1).getD []) = some statusCode ∧
          response = ⟨statusCode, Message.contentType (Message.split raw).1, raw,
            (Message.split raw).2⟩ := by
  unfold ofMessage
  dsimp only
  cases readStatusCode? ((Message.startLine? (Message.split raw).1).getD []) with
  | none => simp
  | some statusCode => simp [eq_comm]

theorem Transaction.ofMessages_eq_ok_iff {url request : Text} {response? : Option Text}
    {transaction : Transaction} :
    ofMessages url request response? = .ok transaction ↔
      ∃ parsed method read?, Url.parse (Text.trim url) = .ok parsed ∧
        ((Message.startLine? (Message.split request).1).map Text.words).bind (·.head?) =
          some method ∧
        response?.mapM Response.ofMessage = .ok read? ∧
        transaction = ofParts parsed method request read? := by
  unfold ofMessages
  dsimp only
  cases Url.parse (Text.trim url) with
  | error reason => simp [bind, Except.bind, throw, throwThe, MonadExceptOf.throw]
  | ok parsed =>
      dsimp only
      rw [pure_bind]
      cases ((Message.startLine? (Message.split request).1).map Text.words).bind (·.head?) with
      | none => simp [throw, throwThe, MonadExceptOf.throw]
      | some method =>
          cases response?.mapM Response.ofMessage with
          | error reason => simp [bind, Except.bind]
          | ok read? => simp [bind, Except.bind, pure, Except.pure, ofParts, eq_comm]

/-- If the response is among what is recorded, it is what is read of its message. -/
theorem Transaction.ofMessages_response {url request : Text} {response? : Option Text}
    {transaction : Transaction} (recorded : ofMessages url request response? = .ok transaction) :
    response?.mapM Response.ofMessage = .ok transaction.response? := by
  obtain ⟨parsed, method, read?, -, -, read, rfl⟩ := ofMessages_eq_ok_iff.mp recorded
  exact read

end ProxyHistory
