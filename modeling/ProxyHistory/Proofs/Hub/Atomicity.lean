import Mathlib.Data.List.Forall2
import ProxyHistory.Proofs.Hub.Exchanges
import ProxyHistory.Proofs.Store.Window

/-!
# Requests are answered as a whole

A request records all exchanges of its body, or drops the history, or leaves the hub as it was, and
the status of the reply tells which. A batch is made up completely before any of it is recorded, so
the first exchange that makes up no transaction keeps all others out.
-/

namespace ProxyHistory

namespace Hub

/-- The transaction is the one that the exchange makes up. -/
def Exchange.Builds (exchange : Exchange) (transaction : Transaction) : Prop :=
  Transaction.ofMessages exchange.url exchange.request exchange.response? = .ok transaction

/-- The reply to a batch that was recorded. -/
def recordedReply (recorded stored : Nat) : Reply :=
  .success 202
    (.ofMembers [("recorded".toList, .integer recorded), ("stored".toList, .integer stored)])

/-- The reply to a batch in which the exchange at an index makes up no transaction. -/
def recordRefusal (index : Nat) (error : TransactionError) : Reply :=
  .refusal ("record ".toList ++ Text.ofNat index ++ ": ".toList ++ error.message)

/-! ## Batches -/

/-- The first exchange of a batch that makes up no transaction, and why. -/
structure FirstFault (exchanges : List Exchange) (index : Nat) (error : TransactionError) : Prop where
  builds : ∀ exchange ∈ exchanges.take index, ∃ transaction, exchange.Builds transaction
  fails : ∃ exchange, exchanges[index]? = some exchange ∧
    Transaction.ofMessages exchange.url exchange.request exchange.response? = .error error

/-- A batch makes up its transactions in their order, or its first fault is reported. -/
theorem buildAll_cases (index : Nat) (exchanges : List Exchange) :
    (∃ transactions, List.Forall₂ Exchange.Builds exchanges transactions ∧
        buildAll index exchanges = .ok transactions) ∨
      ∃ ahead error, FirstFault exchanges ahead error ∧
        buildAll index exchanges = .error (recordRefusal (index + ahead) error) := by
  induction exchanges generalizing index with
  | nil => exact .inl ⟨[], .nil, rfl⟩
  | cons exchange rest induction =>
      cases built : Transaction.ofMessages exchange.url exchange.request exchange.response? with
      | error error =>
          refine .inr ⟨0, error, ⟨by simp, exchange, rfl, built⟩, ?_⟩
          simp only [buildAll, built]
          rfl
      | ok transaction =>
          rcases induction (index + 1) with
            ⟨transactions, builds, result⟩ | ⟨ahead, error, fault, result⟩
          · refine .inl ⟨transaction :: transactions, .cons built builds, ?_⟩
            simp only [buildAll, built, result, Except.map]
          · refine .inr ⟨ahead + 1, error, ⟨?_, fault.fails⟩, ?_⟩
            · rw [List.take_succ_cons, List.forall_mem_cons]
              exact ⟨⟨transaction, built⟩, fault.builds⟩
            · have shifted : index + 1 + ahead = index + (ahead + 1) := by omega
              simp only [buildAll, built, result, Except.map, shifted]

theorem exists_builds_of_forall₂ {exchanges : List Exchange} {transactions : List Transaction}
    (builds : List.Forall₂ Exchange.Builds exchanges transactions) :
    ∀ exchange ∈ exchanges, ∃ transaction, exchange.Builds transaction := by
  induction builds with
  | nil => exact fun exchange member => absurd member List.not_mem_nil
  | cons built _ induction => exact List.forall_mem_cons.2 ⟨⟨_, built⟩, induction⟩

theorem FirstFault.exists_mem {exchanges : List Exchange} {index : Nat} {error : TransactionError}
    (fault : FirstFault exchanges index error) :
    ∃ exchange ∈ exchanges, ∀ transaction, ¬ exchange.Builds transaction := by
  obtain ⟨exchange, found, fails⟩ := fault.fails
  refine ⟨exchange, List.mem_of_getElem? found, fun transaction builds => ?_⟩
  rw [Exchange.Builds, fails] at builds
  contradiction

/-! ## Refusals -/

theorem le_status_reply (rejection : Rejection) : 400 ≤ rejection.reply.status := by
  cases rejection with
  | faultyJson => exact Nat.le_refl 400
  | unknownPath => exact Nat.le_add_right 400 4
  | unknownMethod => exact Nat.le_add_right 400 5
  | tooLarge => exact Nat.le_add_right 400 13
  | notJson | notForm => exact Nat.le_add_right 400 15
  | misshapenJson | missingField | repeatedField => exact Nat.le_add_right 400 22

theorem le_status_of_admitJson {request : Request} {reply : Reply}
    (refused : admitJson request = .error reply) : 400 ≤ reply.status := by
  obtain ⟨rejection, -, rfl⟩ := exists_of_mapError_eq_error refused
  exact le_status_reply rejection

theorem le_status_of_admitForm {request : Request} {reply : Reply}
    (refused : admitForm request = .error reply) : 400 ≤ reply.status := by
  obtain ⟨rejection, -, rfl⟩ := exists_of_mapError_eq_error refused
  exact le_status_reply rejection

theorem le_status_of_orRefuse {α : Type} {hub : Hub} {endpoint : Endpoint} {body : List UInt8}
    {read : Except Json.ReadError α} {reply : Reply}
    (refused : hub.orRefuse endpoint body read = .error reply) : 400 ≤ reply.status := by
  obtain ⟨error, -, rfl⟩ := exists_of_mapError_eq_error refused
  exact le_status_reply _

theorem eq_of_admitJson {request : Request} {body : List UInt8}
    (admitted : admitJson request = .ok body) : body = request.body := by
  have admitted := eq_ok_of_mapError_eq_ok admitted
  unfold admitBody at admitted
  split_ifs at admitted
  cases admitted
  rfl

theorem le_status_of_readEncodedQuery {body : List UInt8} {reply : Reply}
    (refused : readEncodedQuery body = .error reply) : 400 ≤ reply.status := by
  unfold readEncodedQuery at refused
  split at refused
  · cases refused
    exact le_status_reply _
  · split at refused
    · cases refused
      exact Nat.le_refl 400
    · split at refused
      · cases refused
        exact Nat.le_refl 400
      · cases refused

theorem status_runQuery (hub : Hub) (query : Text) :
    (hub.runQuery query).status = 200 ∨ (hub.runQuery query).status = 400 := by
  unfold runQuery
  split
  · exact .inl rfl
  · exact .inr rfl

/-! ## Recording -/

/-- A batch that can be read is recorded as a whole, or its first fault is reported. -/
theorem record_cases (hub : Hub) {body : List UInt8} {exchanges : List Exchange}
    (read : readExchanges body = .ok exchanges) :
    (∃ transactions, List.Forall₂ Exchange.Builds exchanges transactions ∧
        hub.record body = .ok ({ hub with store := hub.store.recordAll transactions },
          recordedReply exchanges.length
            (min hub.store.capacity (hub.store.size + exchanges.length)))) ∨
      ∃ index error, FirstFault exchanges index error ∧
        hub.record body = .error (recordRefusal index error) := by
  rcases buildAll_cases 0 exchanges with
    ⟨transactions, builds, built⟩ | ⟨index, error, fault, built⟩
  · refine .inl ⟨transactions, builds, ?_⟩
    rw [builds.length_eq, ← Store.size_recordAll]
    simp only [record, orRefuse, read, built, bind, Except.bind, Except.mapError]
    rfl
  · refine .inr ⟨index, error, fault, ?_⟩
    simp only [record, orRefuse, read, built, bind, Except.bind, Except.mapError, Nat.zero_add]

/-! ## Routes -/

theorem mem_of_route {method path : Text} {endpoint : Endpoint}
    (routed : route method path = .ok endpoint) :
    ∃ methods, (path, methods) ∈ routes ∧ (method, endpoint) ∈ methods := by
  unfold route at routed
  split at routed
  case h_1 => cases routed
  case h_2 methods pathFound =>
    split at routed
    case h_1 => cases routed
    case h_2 endpoint methodFound =>
      cases routed
      exact ⟨methods, Entries.mem_of_lookup pathFound, Entries.mem_of_lookup methodFound⟩

/-- The method and the path that ask for something. -/
def address : Endpoint → Text × Text
  | .greeting => ("GET".toList, "/".toList)
  | .encodedQuery => ("POST".toList, "/query".toList)
  | .query => ("POST".toList, "/api/query".toList)
  | .record => ("POST".toList, "/api/history".toList)
  | .clear => ("DELETE".toList, "/api/history".toList)
  | .status => ("GET".toList, "/api/status".toList)

theorem eq_address_of_route {method path : Text} {endpoint : Endpoint}
    (routed : route method path = .ok endpoint) : (method, path) = address endpoint := by
  obtain ⟨methods, path_mem, method_mem⟩ := mem_of_route routed
  simp only [routes, List.mem_cons, List.not_mem_nil, or_false, Prod.mk.injEq] at path_mem
  rcases path_mem with ⟨rfl, rfl⟩ | ⟨rfl, rfl⟩ | ⟨rfl, rfl⟩ | ⟨rfl, rfl⟩ | ⟨rfl, rfl⟩
  case inr.inr.inr.inl =>
    rcases List.mem_cons.mp method_mem with posted | deleted
    · cases posted
      rfl
    · cases List.mem_singleton.mp deleted
      rfl
  all_goals
    cases List.mem_singleton.mp method_mem
    rfl

/-! ## Outcomes -/

/-- All that a request can come to. -/
inductive Outcome (hub : Hub) (request : Request) (method : Text) : Hub → Reply → Prop
  /-- All exchanges of the body are recorded. -/
  | recorded (exchanges : List Exchange) (transactions : List Transaction)
      (posted : method = "POST".toList) (on_history : request.path = "/api/history".toList)
      (read : readExchanges request.body = .ok exchanges)
      (builds : List.Forall₂ Exchange.Builds exchanges transactions) :
      Outcome hub request method { hub with store := hub.store.recordAll transactions }
        (recordedReply exchanges.length
          (min hub.store.capacity (hub.store.size + exchanges.length)))
  /-- The history is dropped. -/
  | cleared (deleted : method = "DELETE".toList)
      (on_history : request.path = "/api/history".toList) :
      Outcome hub request method { hub with store := hub.store.clear } (.bare 204)
  /-- The hub stays as it is. -/
  | kept (reply : Reply) (not_recorded : reply.status ≠ 202) (not_cleared : reply.status ≠ 204) :
      Outcome hub request method hub reply

variable (hub : Hub) (request : Request)

theorem Outcome.of_refusal {method : Text} {reply : Reply} (refused : 400 ≤ reply.status) :
    Outcome hub request method hub reply :=
  .kept reply (by omega) (by omega)

theorem Outcome.of_runQuery (method query : Text) :
    Outcome hub request method hub (hub.runQuery query) := by
  rcases hub.status_runQuery query with granted | refused
  · exact .kept _ (by omega) (by omega)
  · exact .of_refusal hub request (Nat.le_of_eq refused.symm)

theorem Outcome.of_granted {method : Text} {reply : Reply} (granted : reply.status = 200) :
    Outcome hub request method hub reply :=
  .kept reply (by omega) (by omega)

variable {hub request}

theorem le_status_of_record {body : List UInt8} {reply : Reply}
    (refused : hub.record body = .error reply) : 400 ≤ reply.status := by
  rcases exists_of_bind_eq_error refused with unread | ⟨exchanges, read, -⟩
  · exact le_status_of_orRefuse unread
  · rcases hub.record_cases (eq_ok_of_mapError_eq_ok read) with
      ⟨transactions, builds, result⟩ | ⟨index, error, fault, result⟩
    · rw [result] at refused
      cases refused
    · rw [result] at refused
      cases refused
      exact Nat.le_refl 400

theorem le_status_of_serve {endpoint : Endpoint} {reply : Reply}
    (refused : hub.serve request endpoint = .error reply) : 400 ≤ reply.status := by
  cases endpoint with
  | greeting => cases refused
  | clear => cases refused
  | status => cases refused
  | encodedQuery =>
      rcases exists_of_bind_eq_error refused with unadmitted | ⟨body, -, later⟩
      · exact le_status_of_admitForm unadmitted
      · rcases exists_of_bind_eq_error later with unread | ⟨query, -, ⟨⟩⟩
        exact le_status_of_readEncodedQuery unread
  | query =>
      rcases exists_of_bind_eq_error refused with unadmitted | ⟨body, -, later⟩
      · exact le_status_of_admitJson unadmitted
      · rcases exists_of_bind_eq_error later with unread | ⟨query, -, ⟨⟩⟩
        exact le_status_of_orRefuse unread
  | record =>
      rcases exists_of_bind_eq_error refused with unadmitted | ⟨body, -, unrecorded⟩
      · exact le_status_of_admitJson unadmitted
      · exact le_status_of_record unrecorded

theorem outcome_of_record {method : Text} (posted : method = "POST".toList)
    (on_history : request.path = "/api/history".toList) {after : Hub} {reply : Reply}
    (recorded : hub.record request.body = .ok (after, reply)) :
    Outcome hub request method after reply := by
  obtain ⟨exchanges, found, -⟩ := exists_of_bind_eq_ok recorded
  have read := eq_ok_of_mapError_eq_ok found
  rcases hub.record_cases read with
    ⟨transactions, builds, result⟩ | ⟨index, error, fault, result⟩
  · rw [result] at recorded
    cases recorded
    exact .recorded exchanges transactions posted on_history read builds
  · rw [result] at recorded
    cases recorded

theorem outcome_of_serve {method : Text} {endpoint : Endpoint} {after : Hub} {reply : Reply}
    (routed : route method request.path = .ok endpoint)
    (served : hub.serve request endpoint = .ok (after, reply)) :
    Outcome hub request method after reply := by
  cases endpoint with
  | greeting =>
      cases served
      exact .of_granted hub request rfl
  | status =>
      cases served
      exact .of_granted hub request rfl
  | clear =>
      cases served
      obtain ⟨deleted, on_history⟩ := Prod.mk.inj (eq_address_of_route routed)
      exact .cleared deleted on_history
  | encodedQuery =>
      obtain ⟨body, -, read⟩ := exists_of_bind_eq_ok served
      obtain ⟨query, -, ⟨⟩⟩ := exists_of_bind_eq_ok read
      exact .of_runQuery hub request method query
  | query =>
      obtain ⟨body, -, read⟩ := exists_of_bind_eq_ok served
      obtain ⟨query, -, ⟨⟩⟩ := exists_of_bind_eq_ok read
      exact .of_runQuery hub request method query
  | record =>
      obtain ⟨posted, on_history⟩ := Prod.mk.inj (eq_address_of_route routed)
      obtain ⟨body, admitted, recorded⟩ := exists_of_bind_eq_ok served
      rw [eq_of_admitJson admitted] at recorded
      exact outcome_of_record posted on_history recorded

variable (hub request)

theorem outcome_answer (method : Text) :
    Outcome hub request method (hub.answer request method).1 (hub.answer request method).2 := by
  cases routed : route method request.path with
  | error rejection =>
      simp only [answer, routed]
      exact .of_refusal hub request (le_status_reply rejection)
  | ok endpoint =>
      cases served : hub.serve request endpoint with
      | error reply =>
          simp only [answer, routed, served]
          exact .of_refusal hub request (le_status_of_serve served)
      | ok result =>
          simp only [answer, routed, served]
          exact outcome_of_serve routed served

/-- A request for headers alone goes to no route that changes anything. -/
theorem Outcome.of_headers {after : Hub} {reply : Reply}
    (outcome : Outcome hub request "GET".toList after reply) :
    Outcome hub request request.method after reply.withoutBody := by
  cases outcome with
  | recorded exchanges transactions posted => exact absurd posted (by decide)
  | cleared deleted => exact absurd deleted (by decide)
  | kept reply not_recorded not_cleared => exact .kept _ not_recorded not_cleared

theorem outcome_handle :
    Outcome hub request request.method (hub.handle request).1 (hub.handle request).2 := by
  unfold handle
  split_ifs
  · exact .of_granted hub request rfl
  · exact (hub.outcome_answer request "GET".toList).of_headers
  · exact hub.outcome_answer request request.method

/-! ## Requests as a whole -/

/-- The request asks for exchanges in JSON to be recorded. -/
def PostsHistory (request : Request) : Prop :=
  request.method = "POST".toList ∧ request.path = "/api/history".toList ∧ request.hasJson = true

/-- The request is answered as a whole: the reply tells whether the hub has recorded all exchanges
of the body, has dropped its history, or has changed in nothing. -/
structure IsAtomic (hub : Hub) (request : Request) (after : Hub) (reply : Reply) : Prop where
  /-- The body was a batch. The store keeps the end of what it held and what was recorded, and the
  reply counts both. -/
  recorded : reply.status = 202 →
    request.method = "POST".toList ∧ request.path = "/api/history".toList ∧
      ∃ items exchanges transactions,
        WritesBatch request.body items ∧ List.Forall₂ Describes items exchanges ∧
          List.Forall₂ Exchange.Builds exchanges transactions ∧
          after = { hub with store := after.store } ∧
          after.store.capacity = hub.store.capacity ∧
          after.store.history = (hub.store.history ++ transactions).rtake hub.store.capacity ∧
          reply = recordedReply items.length
            (min hub.store.capacity (hub.store.size + items.length))
  /-- The store is empty. -/
  cleared : reply.status = 204 →
    request.method = "DELETE".toList ∧ request.path = "/api/history".toList ∧
      after = { hub with store := after.store } ∧
      after.store.capacity = hub.store.capacity ∧ after.store.history = []
  /-- Nothing changes otherwise. -/
  kept : reply.status ≠ 202 → reply.status ≠ 204 → after = hub
  /-- The exchanges of a batch are recorded if all of them make up transactions, and the first that
  does not is named otherwise. -/
  decided : PostsHistory request → request.body.length ≤ bodyLimit →
    ∀ items exchanges, WritesBatch request.body items → List.Forall₂ Describes items exchanges →
      (reply.status = 202 ↔
          ∀ exchange ∈ exchanges, ∃ transaction, exchange.Builds transaction) ∧
        (reply.status ≠ 202 →
          ∃ index error, FirstFault exchanges index error ∧ reply = recordRefusal index error)
  /-- A body that is too large is not read. -/
  oversized : PostsHistory request → bodyLimit < request.body.length →
    reply = Rejection.tooLarge.reply

section Statuses

variable {hub request}
variable {method : Text} {after : Hub} {reply : Reply}

theorem Outcome.recorded_of_status (outcome : Outcome hub request method after reply)
    (status : reply.status = 202) :
    method = "POST".toList ∧ request.path = "/api/history".toList ∧
      ∃ items exchanges transactions,
        WritesBatch request.body items ∧ List.Forall₂ Describes items exchanges ∧
          List.Forall₂ Exchange.Builds exchanges transactions ∧
          after = { hub with store := after.store } ∧
          after.store.capacity = hub.store.capacity ∧
          after.store.history = (hub.store.history ++ transactions).rtake hub.store.capacity ∧
          reply = recordedReply items.length
            (min hub.store.capacity (hub.store.size + items.length)) := by
  cases outcome with
  | recorded exchanges transactions posted on_history read builds =>
      obtain ⟨items, writes, describes⟩ := writesBatch_of_readExchanges read
      exact ⟨posted, on_history, items, exchanges, transactions, writes, describes, builds, rfl,
        hub.store.capacity_recordAll transactions, hub.store.history_recordAll transactions,
        by rw [describes.length_eq]⟩
  | cleared => cases status
  | kept reply not_recorded => exact absurd status not_recorded

theorem Outcome.cleared_of_status (outcome : Outcome hub request method after reply)
    (status : reply.status = 204) :
    method = "DELETE".toList ∧ request.path = "/api/history".toList ∧
      after = { hub with store := after.store } ∧
      after.store.capacity = hub.store.capacity ∧ after.store.history = [] := by
  cases outcome with
  | recorded => cases status
  | cleared deleted on_history => exact ⟨deleted, on_history, rfl, rfl, rfl⟩
  | kept reply _ not_cleared => exact absurd status not_cleared

theorem Outcome.eq_of_status (outcome : Outcome hub request method after reply)
    (not_recorded : reply.status ≠ 202) (not_cleared : reply.status ≠ 204) : after = hub := by
  cases outcome with
  | recorded => exact absurd rfl not_recorded
  | cleared => exact absurd rfl not_cleared
  | kept => rfl

end Statuses

theorem handle_of_route {endpoint : Endpoint} (not_options : request.method ≠ "OPTIONS".toList)
    (not_headers : request.method ≠ "HEAD".toList)
    (routed : route request.method request.path = .ok endpoint) :
    hub.handle request =
      match hub.serve request endpoint with
      | .error reply => (hub, reply)
      | .ok result => result := by
  have answered : hub.handle request = hub.answer request request.method := by
    rw [handle, if_neg not_options, if_neg not_headers]
  unfold answer at answered
  split at answered
  · rename_i unrouted
    cases routed.symm.trans unrouted
  · rename_i found
    cases routed.symm.trans found
    exact answered

theorem handle_of_posts (posts : PostsHistory request) :
    hub.handle request =
      match admitJson request >>= hub.record with
      | .error reply => (hub, reply)
      | .ok result => result := by
  obtain ⟨posted, on_history, has_json⟩ := posts
  have routed : route request.method request.path = .ok .record := by
    rw [posted, on_history]
    rfl
  rw [handle_of_route hub request (by rw [posted]; decide) (by rw [posted]; decide) routed]
  rfl

theorem admitBody_eq {hasType : Bool} (typed : hasType = true) (otherwise : Rejection) :
    admitBody request hasType otherwise =
      if request.body.length ≤ bodyLimit then .ok request.body else .error .tooLarge := by
  subst typed
  by_cases fits : request.body.length ≤ bodyLimit
  · rw [if_pos fits]
    exact if_neg (Nat.not_lt.mpr fits)
  · rw [if_neg fits]
    exact if_pos (Nat.lt_of_not_le fits)

theorem admitJson_eq (hasJson : request.hasJson = true) :
    admitJson request = if request.body.length ≤ bodyLimit then .ok request.body
      else .error Rejection.tooLarge.reply := by
  rw [admitJson, admitBody_eq request hasJson]
  split_ifs <;> rfl

theorem admitForm_eq (hasForm : request.hasForm = true) :
    admitForm request = if request.body.length ≤ bodyLimit then .ok request.body
      else .error Rejection.tooLarge.reply := by
  rw [admitForm, admitBody_eq request hasForm]
  split_ifs <;> rfl

theorem handle_oversized (posts : PostsHistory request)
    (oversized : bodyLimit < request.body.length) :
    hub.handle request = (hub, Rejection.tooLarge.reply) := by
  rw [handle_of_posts hub request posts, admitJson_eq request posts.2.2,
    if_neg (Nat.not_le.mpr oversized)]
  rfl

theorem decided_of_posts (posts : PostsHistory request)
    (fits : request.body.length ≤ bodyLimit) {exchanges : List Exchange}
    (read : readExchanges request.body = .ok exchanges) :
    ((hub.handle request).2.status = 202 ↔
        ∀ exchange ∈ exchanges, ∃ transaction, exchange.Builds transaction) ∧
      ((hub.handle request).2.status ≠ 202 →
        ∃ index error, FirstFault exchanges index error ∧
          (hub.handle request).2 = recordRefusal index error) := by
  rw [handle_of_posts hub request posts, admitJson_eq request posts.2.2, if_pos fits]
  simp only [bind, Except.bind]
  rcases hub.record_cases read with ⟨transactions, builds, result⟩ | ⟨index, error, fault, result⟩
  · rw [result]
    have accepted : (recordedReply exchanges.length
        (min hub.store.capacity (hub.store.size + exchanges.length))).status = 202 := rfl
    exact ⟨⟨fun _ => exists_builds_of_forall₂ builds, fun _ => accepted⟩, absurd accepted⟩
  · rw [result]
    have refused : (recordRefusal index error).status ≠ 202 := by
      change 400 ≠ 202
      omega
    refine ⟨⟨fun accepted => absurd accepted refused, fun builds => ?_⟩,
      fun _ => ⟨index, error, fault, rfl⟩⟩
    obtain ⟨exchange, member, unbuilt⟩ := fault.exists_mem
    obtain ⟨transaction, built⟩ := builds exchange member
    exact absurd built (unbuilt transaction)

/-- Every request is answered as a whole. -/
theorem isAtomic_handle :
    IsAtomic hub request (hub.handle request).1 (hub.handle request).2 where
  recorded status := (hub.outcome_handle request).recorded_of_status status
  cleared status := (hub.outcome_handle request).cleared_of_status status
  kept not_recorded not_cleared :=
    (hub.outcome_handle request).eq_of_status not_recorded not_cleared
  decided posts fits _ _ writes describes :=
    hub.decided_of_posts request posts fits (readExchanges_of_writesBatch writes describes)
  oversized posts exceeds := by rw [hub.handle_oversized request posts exceeds]

/-- A hub with room for one transaction. -/
def narrow : Hub :=
  .create 1 .required "today".toList fun _ _ => []

/-- Two exchanges in JSON. -/
def pairText : Text :=
  "[\x7b\"url\":\"http://[::1]/a\",\"request\":\"GET /a\"\x7d,".toList ++
    "\x7b\"url\":\"http://[::1]/b\",\"request\":\"GET /b\"\x7d]".toList

/-- A request that records them. -/
def pairRequest : Request where
  method := "POST".toList
  target := "/api/history".toList
  contentType? := some "application/json;".toList
  body := Text.encode pairText

/-- A hub with room for one transaction records a batch of two, and keeps the second. -/
theorem isAtomic_handle_pair :
    (narrow.handle pairRequest).2.status = 202 ∧
      ∃ items exchanges transactions,
        WritesBatch pairRequest.body items ∧ List.Forall₂ Describes items exchanges ∧
          List.Forall₂ Exchange.Builds exchanges transactions ∧
          (narrow.handle pairRequest).1.store.history = transactions.rtake 1 ∧
          (narrow.handle pairRequest).2 = recordedReply 2 1 := by
  have status : (narrow.handle pairRequest).2.status = 202 := rfl
  obtain ⟨-, -, items, exchanges, transactions, writes, describes, builds, -, -, history, -⟩ :=
    (isAtomic_handle narrow pairRequest).recorded status
  exact ⟨status, items, exchanges, transactions, writes, describes, builds, history, rfl⟩

/-- A request to record no exchanges, in a body that is too large. -/
def spaciousRequest : Request where
  method := "POST".toList
  target := "/api/history".toList
  contentType? := some "application/json".toList
  body := Text.encode ('[' :: (List.replicate bodyLimit ' ' ++ [']']))

theorem writesBatch_spacious : WritesBatch spaciousRequest.body [] := by
  have isGap : Json.Gap (Text.raw (List.replicate bodyLimit ' ')) := by
    intro c? member
    obtain ⟨c, inSpaces, rfl⟩ := List.mem_map.mp member
    rw [List.eq_of_mem_replicate inSpaces]
    rfl
  have writes : Json.WritesList (Json.WritesItem exchangeFields) _ [] :=
    .brackets (.nil true isGap) .nil
  have starts := Json.StartsWith.behind Json.gap_nil writes []
  refine ⟨[], ?_⟩
  rw [spaciousRequest, Text.decode_encode]
  simpa using starts

/-- A body that is too large is refused although all its exchanges make up transactions. -/
theorem handle_spacious :
    PostsHistory spaciousRequest ∧ WritesBatch spaciousRequest.body [] ∧
      narrow.handle spaciousRequest = (narrow, Rejection.tooLarge.reply) ∧
      ¬ ((narrow.handle spaciousRequest).2.status = 202 ↔
        ∀ exchange ∈ ([] : List Exchange), ∃ transaction, exchange.Builds transaction) := by
  have posts : PostsHistory spaciousRequest := ⟨rfl, rfl, rfl⟩
  have exceeds : bodyLimit < spaciousRequest.body.length := by
    refine Nat.lt_of_lt_of_le ?_ (Text.length_le_flatMap Text.encodeChar_ne_nil _)
    rw [List.length_cons, List.length_append, List.length_replicate]
    omega
  have refused := narrow.handle_oversized spaciousRequest posts exceeds
  refine ⟨posts, writesBatch_spacious, refused, fun decided => ?_⟩
  rw [refused] at decided
  have recorded : 413 = 202 := decided.2 fun exchange member => absurd member List.not_mem_nil
  omega

end Hub

end ProxyHistory
