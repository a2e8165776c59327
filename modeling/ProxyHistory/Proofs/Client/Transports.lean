import ProxyHistory.Client.Command
import ProxyHistory.Proofs.Hub.Queries

/-!
# Two ways to send a query

The client sends the queries that it assembles as forms, and those that it is given as JSON. The hub
answers either alike, so a query command prints what the raw query that it stands for prints.
-/

namespace ProxyHistory.Client

open Hub (Fits SendsForm SendsJson)

theorem sendsForm_formRequest (query : Text) : SendsForm (formRequest query) query where
  posted := rfl
  on_path := rfl
  typed := by rfl
  spelled := Form.writesField_render "query".toList (Base64.encode (Text.encode query))

theorem sendsJson_queryRequest (query : Text) : SendsJson (queryRequest query) query where
  posted := rfl
  on_path := rfl
  typed := by rfl
  written := by
    have writes : Json.WritesRecord Hub.queryFields
        (Json.ofMembers [("query".toList, .string query)]).compact.raw [.string query] :=
      ⟨.object [("query".toList, .string query)],
        Json.writesItem_compact (List.forall_mem_singleton.mpr (.string query))
          (List.pairwise_singleton _ _), rfl, .cons (.inl ⟨query, rfl⟩) .nil⟩
    have starts := Json.StartsWith.behind Json.gap_nil writes []
    rw [List.append_nil, ← Text.decode_encode] at starts
    exact ⟨[], starts⟩

section Plans

variable {hub : Hub} {command : Command}

theorem run_of_plan {plan : Plan} (planned : command.plan = .ok plan) :
    command.run hub = ((hub.handle plan.request).1,
      plan.print (hub.handle plan.request).2.status (hub.handle plan.request).2.bodyText) := by
  rw [Command.run, planned]

theorem run_of_plan_error {error : ClientError}
    (refused : command.plan = .error error) : command.run hub = (hub, .error error) := by
  rw [Command.run, refused]

end Plans

/-- What is printed of rows in JSON does not depend on the fields asked for. -/
theorem run_query_json {hub : Hub} {fields : List Text} {conditions : Text} {limit : Nat}
    (accepted : checkInput .builtin (fields.map Text.trim) conditions = .ok ())
    (same : hub.handle (formRequest (buildQuery (fields.map Text.trim) conditions limit)) =
      hub.handle (queryRequest (buildQuery (fields.map Text.trim) conditions limit))) :
    (Command.query fields conditions limit true).run hub =
      (Command.raw (buildQuery (fields.map Text.trim) conditions limit) true).run hub := by
  have planned : (Command.query fields conditions limit true).plan =
      .ok ⟨formRequest (buildQuery (fields.map Text.trim) conditions limit), fun status body => do
        return renderRows (← Envelope.ofReply status body) (fields.map Text.trim) true⟩ := by
    rw [Command.plan, accepted]
    rfl
  rw [run_of_plan planned, run_of_plan rfl, same]
  rfl

/-- The hub answers a query alike however it is sent, and the client's commands make use of it. -/
structure TransportsAgree (hub : Hub) : Prop where
  /-- A form and JSON with the same query get the same reply: the rows of the query against the
  history, or what is wrong with the query. -/
  replies : ∀ query form json, SendsForm form query → SendsJson json query → Fits form → Fits json →
    hub.handle form = hub.handle json ∧
      (∀ rows, hub.engine.execute query hub.store.history = .ok rows →
        hub.handle form = (hub, .success 200 (.array (rows.map Row.toJson)))) ∧
      ∀ error, hub.engine.execute query hub.store.history = .error error →
        hub.handle form = (hub, .refusal error.message)
  /-- A query command comes to the same as the raw query it stands for, if the two requests are
  both small enough or both too large. -/
  commands : ∀ fields conditions limit,
    checkInput .builtin (fields.map Text.trim) conditions = .ok () →
      let query := buildQuery (fields.map Text.trim) conditions limit
      (Fits (formRequest query) ↔ Fits (queryRequest query)) →
        (Command.query fields conditions limit true).run hub = (Command.raw query true).run hub

/-- However a query is sent, its answer is the same. -/
theorem transportsAgree (hub : Hub) : TransportsAgree hub where
  replies query form json sendsForm sendsJson formFits jsonFits := by
    rw [hub.handle_of_sendsForm sendsForm, hub.handle_of_sendsJson sendsJson, Hub.replyTo,
      Hub.replyTo, if_pos formFits, if_pos jsonFits]
    obtain ⟨rows, refusal⟩ := hub.runQuery_eq query
    exact ⟨rfl, fun _ executed => by rw [rows _ executed],
      fun _ executed => by rw [refusal _ executed]⟩
  commands fields conditions limit accepted := by
    intro query alike
    refine run_query_json accepted ?_
    rw [hub.handle_of_sendsForm (sendsForm_formRequest query),
      hub.handle_of_sendsJson (sendsJson_queryRequest query), Hub.replyTo, Hub.replyTo]
    simp only [alike]

/-- Conditions with a quote, a plus sign, a control character and one beyond the basic plane. -/
def oddConditions : Text := "body = '\"+\u0001😀\\'".toList

/-- Odd characters come through either way, and against an empty history there are no rows. -/
theorem transportsAgree_odd :
    (Command.query [" URL ".toList] oddConditions 1 true).run Hub.narrow =
        (Command.raw (buildQuery ["URL".toList] oddConditions 1) true).run Hub.narrow ∧
      Hub.narrow.handle (queryRequest (buildQuery ["URL".toList] oddConditions 1)) =
        (Hub.narrow, .success 200 (.array [])) := by
  have agree := transportsAgree Hub.narrow
  have formFits : Fits (formRequest (buildQuery ["URL".toList] oddConditions 1)) := by decide
  have jsonFits : Fits (queryRequest (buildQuery ["URL".toList] oddConditions 1)) := by decide
  have trimmed : [" URL ".toList].map Text.trim = ["URL".toList] := by decide
  have accepted : checkInput .builtin ([" URL ".toList].map Text.trim) oddConditions = .ok () := by
    rfl
  have executed : Hub.narrow.engine.execute (buildQuery ["URL".toList] oddConditions 1)
      Hub.narrow.store.history = .ok [] := by
    rfl
  have commands := agree.commands [" URL ".toList] oddConditions 1 accepted
  rw [trimmed] at commands
  obtain ⟨same, rows, -⟩ := agree.replies _ _ _ (sendsForm_formRequest _)
    (sendsJson_queryRequest _) formFits jsonFits
  exact ⟨commands ⟨fun _ => jsonFits, fun _ => formFits⟩, same ▸ rows [] executed⟩

end ProxyHistory.Client
