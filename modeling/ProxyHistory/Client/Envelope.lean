import ProxyHistory.Client.Error
import ProxyHistory.Json.Record

/-!
# Envelopes

What a hub answers is wrapped in an envelope: a code, a message and data.
-/

namespace ProxyHistory.Client

/-- The content of a reply. -/
structure Envelope where
  /-- The code. -/
  code : Nat
  /-- The message. -/
  message : Text
  /-- The data; null if there are none. -/
  data : Json
  deriving Repr

namespace Envelope

/-- The fields of an envelope in JSON. -/
def fields : List Json.Field :=
  [⟨"code".toList, .natural (Nat.pow 2 16), false⟩, ⟨"message".toList, .string, false⟩,
    ⟨"data".toList, .anything, true⟩]

/-- The envelope that a text consists of. -/
def parse? (text : Text) : Option Envelope :=
  match Json.readRecord Json.depthLimit fields text.raw with
  | .ok ([.integer code, .string message, data], rest) =>
      match Json.readEnd rest with
      | .ok () => some ⟨code.toNat, message, data⟩
      | .error _ => none
  | _ => none

/-- The envelope of a reply that tells success. -/
def ofReply (status : Nat) (body : Text) : Except ClientError Envelope :=
  match parse? body with
  | some envelope =>
      if StatusCode.isSuccess status then .ok envelope
      else .error (.refused envelope.message envelope.code)
  | none =>
      if StatusCode.isSuccess status then .error (.unexpectedReply (Text.trim body))
      else .error (.failedStatus status (Text.trim body))

end Envelope

end ProxyHistory.Client
