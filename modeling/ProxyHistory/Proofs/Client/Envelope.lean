import ProxyHistory.Client.Envelope
import ProxyHistory.Hub.Exchange
import ProxyHistory.Proofs.Json.Records

/-!
# Envelopes are read back

The client reads back what a hub puts into an envelope, and takes it for an answer or a refusal as
the status of the reply says.
-/

namespace ProxyHistory.Client.Envelope

theorem areFields_fields : Json.AreFields fields :=
  ⟨by decide, by decide⟩

/-- The members of an envelope, sorted by name. -/
def members (code : Nat) (message : Text) (data : Json) : Entries Json :=
  [("code".toList, .integer code), ("data".toList, data), ("message".toList, .string message)]

theorem isRecord_members {code : Nat} (small : code < 2 ^ 16) (message : Text) (data : Json) :
    Json.IsRecord fields (.object (members code message data))
      [.integer code, .string message, data] :=
  ⟨rfl, .cons (.inl ⟨code, small, rfl⟩) (.cons (.inl ⟨message, rfl⟩) (.cons (.inl trivial) .nil))⟩

section Contents

variable {code : Nat} {message : Text} {data : Json} (small : code < 2 ^ 16)
  (plain : data.IsPlain) (nests : data.nesting ≤ 126)

include small plain nests

/-- Each field of an envelope is read off the member of its name. -/
theorem decidesEntry_members : ∀ member ∈ members code message data,
    Json.DecidesEntry 126 fields member.1 member.2.compact.raw member.2 := by
  have other {first second : Text} (differ : first ≠ second) {Claim : Prop} :
      first = second → Claim := fun same => absurd same differ
  simp only [members, List.forall_mem_cons, List.not_mem_nil, false_imp_iff, implies_true, and_true]
  refine ⟨⟨Json.isSolid_compact _, ?code, fun unwanted => absurd unwanted (by decide)⟩,
    ⟨Json.isSolid_compact _, ?data, fun unwanted => absurd unwanted (by decide)⟩,
    ⟨Json.isSolid_compact _, ?message, fun unwanted => absurd unwanted (by decide)⟩⟩
  all_goals simp only [fields, List.forall_mem_cons, List.not_mem_nil, false_imp_iff, implies_true,
    and_true]
  case code =>
    have word : code < 2 ^ 64 := Nat.lt_trans small (by decide)
    have writes : Json.WritesValue true 0 (Json.integer code).compact.raw (.integer code) :=
      Json.writesValue_compact (.integer code (by omega) (by omega)) (Nat.le_refl 0)
    exact ⟨fun _ => (Json.isDecided_natural small writes).field (Json.shows_compact _),
      other (by decide), other (by decide)⟩
  case data =>
    exact ⟨other (by decide), other (by decide), fun _ =>
      (Json.isDecided_anything (Json.writesValue_compact plain nests)).field
        (Json.shows_compact _)⟩
  case message =>
    exact ⟨other (by decide), fun _ => (Json.shows_compact _).isDecided rfl, other (by decide)⟩

theorem parse?_envelope (status : Nat) :
    parse? (Reply.envelope status code message data).bodyText = some ⟨code, message, data⟩ := by
  have written : (Reply.envelope status code message data).bodyText =
      (Json.object (members code message data)).compact := rfl
  have once : Json.HasOnce fields ((members code message data).map (·.1)) := by
    simp only [members, List.map_cons, List.map_nil, Json.HasOnce]
    decide
  have writes : Json.WritesObject true (Json.DecidesEntry 126 fields)
      (Json.object (members code message data)).compact.raw (members code message data) :=
    Json.writesObject_compact (List.forall₂_same.mpr fun member inside =>
      ⟨rfl, decidesEntry_members small plain nests member inside⟩)
  have decided := Json.isDecision_object areFields_fields writes once []
  have record := isRecord_members small message data
  have read := decided.eq_ok record fun other is => is.unique record
  rw [List.append_nil] at read
  rw [parse?, written, show Json.depthLimit = 126 + 1 from rfl, read]
  rfl

/-- An envelope is an answer if the status tells success, and a refusal otherwise. -/
theorem ofReply_envelope (status : Nat) :
    ofReply status (Reply.envelope status code message data).bodyText =
      if StatusCode.isSuccess status then .ok ⟨code, message, data⟩
      else .error (.refused message code) := by
  rw [ofReply, parse?_envelope small plain nests]

end Contents

/-- No body makes an answer of a reply whose status tells no success. -/
theorem exists_ofReply_eq_error {status : Nat} (unsuccessful : 400 ≤ status) (body : Text) :
    ∃ error, ofReply status body = .error error := by
  have failed : StatusCode.isSuccess status = false := by
    rw [StatusCode.isSuccess, Bool.and_eq_false_iff]
    exact .inr (decide_eq_false (by omega))
  unfold ofReply
  rw [failed]
  split <;> exact ⟨_, rfl⟩

end ProxyHistory.Client.Envelope
