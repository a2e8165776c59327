import ProxyHistory.Proofs.Client.Assembly
import ProxyHistory.Proofs.Client.Envelope
import ProxyHistory.Proofs.Client.Report
import ProxyHistory.Proofs.Client.Transports
import ProxyHistory.Proofs.Projection

/-!
# Columns

The client makes a column of each field that it asks for, and the hub puts the values of just these
fields into each row. Both go by the lower case of a name, so a cell shows the value of its field,
in whatever case the field was written.
-/

namespace ProxyHistory.Client

open Hub (Fits)

/-- The value of a field of a transaction. -/
def valueOf (field : Text) (transaction : Transaction) : Value :=
  (FieldRegistry.builtin.extract? field transaction).getD .absent

/-- The table with a column for each field and a line for each transaction. -/
def fieldTable (fields : List Text) (transactions : List Transaction) : Text :=
  Table.render (fields.map Text.lower :: transactions.map fun transaction =>
    fields.map fun field => cell (valueOf field transaction).toJson)

/-- What is printed of transactions. -/
def fieldReport (fields : List Text) (transactions : List Transaction) : Text :=
  if transactions = [] then "No matching transactions.".toList else fieldTable fields transactions

/-- The records of a text that shows transactions, each on a line of its own: below the names of the
fields stand, for each transaction, the cells of the values of the fields. -/
structure ShowsColumns (fields : List Text) (transactions : List Transaction) (text : Text) :
    Prop where
  lines : ∃ widths : List Nat, widths.length = fields.length ∧
    Text.lines text = Table.framed widths (fields.map Text.lower :: transactions.map
      fun transaction => fields.map fun field => cell (valueOf field transaction).toJson)

/-- Each row holds the values of the fields of its transaction, and nothing else. -/
structure LinesUp (fields : List Text) (rows : List Row) (transactions : List Transaction) :
    Prop where
  /-- The names in a row are those of the fields in lower case. -/
  names : ∀ row ∈ rows, ∀ name, name ∈ row.names ↔ name ∈ fields.map Text.lower
  /-- A row holds what the extractors of the fields take from its transaction, which is null only if
  there is no such value. -/
  values : List.Forall₂ (fun row transaction => ∀ field ∈ fields,
    ∃ extractor, FieldRegistry.builtin.get? field = some extractor ∧
      row.get? (Text.lower field) = some (extractor transaction) ∧
      (row.toJson.member (Text.lower field) = .null ↔ extractor transaction = .absent))
    rows transactions

section Rows

variable {fields : List Text} (known : ∀ field ∈ fields, FieldRegistry.builtin.contains field)

include known

theorem member_row (transaction : Transaction) {field : Text} (member : field ∈ fields) :
    (Projection.row .builtin (fields.map Text.lower) transaction).toJson.member
        (Text.lower field) = (valueOf field transaction).toJson := by
  obtain ⟨value, found, -⟩ :=
    FieldRegistry.exists_extract?_builtin (known field member) transaction
  rw [Row.member_toJson, Projection.get?_row_builtin known transaction member, valueOf, found]
  rfl

theorem linesUp_map (transactions : List Transaction) :
    LinesUp fields (transactions.map (Projection.row .builtin (fields.map Text.lower)))
      transactions where
  names row inRows name := by
    obtain ⟨transaction, -, rfl⟩ := List.mem_map.mp inRows
    exact Projection.mem_names_row_builtin_iff known transaction
  values := by
    rw [List.forall₂_map_left_iff, List.forall₂_same]
    intro transaction _ field member
    obtain ⟨extractor, found⟩ := Option.isSome_iff_exists.mp (known field member)
    have extracted : FieldRegistry.builtin.extract? field transaction =
        some (extractor transaction) := by
      rw [FieldRegistry.extract?, found]
      rfl
    refine ⟨extractor, found, ?_, ?_⟩
    · rw [Projection.get?_row_builtin known transaction member, extracted]
    · rw [member_row known transaction member, Value.toJson_eq_null_iff, valueOf, extracted,
        Option.getD_some]

theorem renderRows_rows (ne_nil : fields ≠ []) (transactions : List Transaction)
    (code : Nat) (message : Text) :
    renderRows ⟨code, message, .array ((transactions.map
      (Projection.row .builtin (fields.map Text.lower))).map Row.toJson)⟩ fields false =
        fieldReport fields transactions := by
  have some_field : fields.isEmpty = false := by simpa using ne_nil
  cases transactions with
  | nil => rfl
  | cons first rest =>
      have shown (transaction : Transaction) : (fields.map fun field =>
          cell ((Projection.row .builtin (fields.map Text.lower) transaction).toJson.member
            (Text.lower field))) =
              fields.map fun field => cell (valueOf field transaction).toJson :=
        List.map_congr_left fun field member => congrArg cell (member_row known transaction member)
      rw [fieldReport, if_neg (List.cons_ne_nil _ _), fieldTable, renderRows,
        if_neg Bool.false_ne_true]
      simp only [Json.items?, Option.getD_some, List.map_cons, renderTable, columns, some_field,
        Bool.false_eq_true, if_false, List.map_map, Function.comp_def, shown]

/-- The table of transactions has no lines but those of its records. -/
theorem showsColumns_fieldReport (ne_nil : fields ≠ []) {transactions : List Transaction}
    (some : transactions ≠ []) :
    ShowsColumns fields transactions (fieldReport fields transactions) where
  lines := by
    have oneLine : ∀ name ∈ fields.map Text.lower, '\n' ∉ name := by
      intro name member
      obtain ⟨field, inside, rfl⟩ := List.mem_map.mp member
      exact FieldRegistry.lineFeed_not_mem_names _
        (FieldRegistry.mem_names_of_contains (known field inside))
    have aligned : ∀ record ∈ transactions.map fun transaction =>
        fields.map fun field => (valueOf field transaction).toJson,
        record.length = (fields.map Text.lower).length := by
      intro record member
      obtain ⟨transaction, -, rfl⟩ := List.mem_map.mp member
      rw [List.length_map, List.length_map]
    obtain ⟨widths, width_each, lines⟩ :=
      exists_lines_render (mt List.map_eq_nil_iff.mp ne_nil) oneLine aligned
    rw [List.length_map] at width_each
    simp only [List.map_map, Function.comp_def] at lines
    rw [fieldReport, if_neg some]
    exact ⟨widths, width_each, lines⟩

end Rows

/-- Rows that can be read back come to the client as they were. -/
theorem ofReply_rows {rows : List Row} (plain : ∀ row ∈ rows, row.toJson.IsPlain) :
    Envelope.ofReply 200 (Reply.success 200 (.array (rows.map Row.toJson))).bodyText =
      .ok ⟨200, "success".toList, .array (rows.map Row.toJson)⟩ := by
  have plainArray : (Json.array (rows.map Row.toJson)).IsPlain := by
    refine .array _ fun item inside => ?_
    obtain ⟨row, inRows, rfl⟩ := List.mem_map.mp inside
    exact plain row inRows
  have shallow : (Json.array (rows.map Row.toJson)).nesting ≤ 126 := by
    refine Nat.succ_le_succ (Json.nestingItems_le_iff.mpr fun item inside => ?_)
    obtain ⟨row, -, rfl⟩ := List.mem_map.mp inside
    exact row.nesting_toJson.trans (by decide)
  exact Envelope.ofReply_envelope (by decide) plainArray shallow 200

/-! ## Queries -/

/-- The rows of a query that was assembled are those of the transactions that its conditions
select. -/
theorem exists_select_of_execute {engine : Engine} (standard : engine.registry = .builtin)
    {fields : List Text} {conditions : Text} {limit : Nat} {history : History} {rows : List Row}
    (ne_nil : fields ≠ []) (accepted : checkInput .builtin fields conditions = .ok ())
    (executed : engine.execute (buildQuery fields conditions limit) history = .ok rows) :
    ∃ query transactions,
      engine.prepare (buildQuery fields conditions limit) = .ok query ∧
      Selection.select .builtin history query.conditions query.limit = .ok transactions ∧
      rows = transactions.map (Projection.row .builtin (fields.map Text.lower)) := by
  obtain ⟨unmentioned, known⟩ := of_checkInput accepted
  obtain ⟨query, prepared, later⟩ := exists_of_bind_eq_ok executed
  obtain ⟨transactions, selected, ⟨⟩⟩ := exists_of_bind_eq_ok later
  have fields_eq : query.fields = fields := by
    obtain ⟨parsed, read, checked⟩ := exists_of_bind_eq_ok prepared
    rw [parse_assembled ne_nil known (unmentioned Query.fromKeyword (by decide)).1] at read
    cases read
    split at checked
    · cases checked
    · cases checked
      rfl
  rw [standard] at selected
  refine ⟨query, transactions, prepared, selected, ?_⟩
  rw [Projection.project, standard, fields_eq, Projection.resolve_builtin known]

/-- What the client prints of a query for fields is the table of the selected transactions, unless
the request for it is too large. -/
theorem run_query_table {hub : Hub} {given : List Text} {conditions : Text} {limit : Nat}
    {transactions : List Transaction} (ne_nil : given.map Text.trim ≠ [])
    (accepted : checkInput .builtin (given.map Text.trim) conditions = .ok ())
    (executed : hub.engine.execute (buildQuery (given.map Text.trim) conditions limit)
      hub.store.history =
        .ok (transactions.map (Projection.row .builtin ((given.map Text.trim).map Text.lower)))) :
    (Command.query given conditions limit false).run hub =
      (hub, if Fits (formRequest (buildQuery (given.map Text.trim) conditions limit)) then
          .ok (fieldReport (given.map Text.trim) transactions)
        else
          .error (.failedStatus 413 Rejection.tooLarge.message)) := by
  have known := (of_checkInput accepted).2
  generalize fields_eq : given.map Text.trim = fields at *
  have planned : (Command.query given conditions limit false).plan =
      .ok ⟨formRequest (buildQuery fields conditions limit), fun status body => do
        return renderRows (← Envelope.ofReply status body) fields false⟩ := by
    rw [Command.plan, fields_eq, accepted]
    rfl
  rw [run_of_plan planned, hub.handle_of_sendsForm (sendsForm_formRequest _), Hub.replyTo]
  by_cases fits : Fits (formRequest (buildQuery fields conditions limit))
  · have plain : ∀ row ∈ transactions.map (Projection.row .builtin (fields.map Text.lower)),
        row.toJson.IsPlain := by
      intro row inRows
      obtain ⟨transaction, -, rfl⟩ := List.mem_map.mp inRows
      exact Projection.isPlain_row _ transaction
    rw [if_pos fits, if_pos fits, (hub.runQuery_eq _).1 _ executed]
    change (hub, do return renderRows (← Envelope.ofReply 200 _) fields false) = _
    rw [ofReply_rows plain]
    exact congrArg _ (congrArg Except.ok (renderRows_rows known ne_nil transactions 200 _))
  · rw [if_neg fits, if_neg fits]
    rfl

/-- Whenever a query that was assembled has rows, they line up with the selected transactions, and
each column of the table that is printed shows the values of its field. -/
theorem linesUp_of_execute {hub : Hub} (standard : hub.engine.registry = .builtin)
    {given : List Text} {conditions : Text} {limit : Nat} (ne_nil : given ≠ [])
    (accepted : checkInput .builtin (given.map Text.trim) conditions = .ok ()) {rows : List Row}
    (executed : hub.engine.execute (buildQuery (given.map Text.trim) conditions limit)
      hub.store.history = .ok rows) :
    ∃ query transactions,
      hub.engine.prepare (buildQuery (given.map Text.trim) conditions limit) = .ok query ∧
      Selection.select .builtin hub.store.history query.conditions query.limit =
        .ok transactions ∧
      LinesUp (given.map Text.trim) rows transactions ∧
      (transactions ≠ [] → ShowsColumns (given.map Text.trim) transactions
        (fieldReport (given.map Text.trim) transactions)) ∧
      (Command.query given conditions limit false).run hub =
        (hub, if Fits (formRequest (buildQuery (given.map Text.trim) conditions limit)) then
            .ok (fieldReport (given.map Text.trim) transactions)
          else
            .error (.failedStatus 413 Rejection.tooLarge.message)) := by
  have fields_ne_nil : given.map Text.trim ≠ [] := by simpa using ne_nil
  obtain ⟨query, transactions, prepared, selected, rfl⟩ :=
    exists_select_of_execute standard fields_ne_nil accepted executed
  exact ⟨query, transactions, prepared, selected,
    linesUp_map (of_checkInput accepted).2 transactions,
    showsColumns_fieldReport (of_checkInput accepted).2 fields_ne_nil,
    run_query_table fields_ne_nil accepted executed⟩

/-- A request that was recorded without a response. -/
def unanswered : Transaction where
  method := "get".toList
  url := "http://[::1]/a".toList
  host := "[::1]".toList
  path := "/a".toList
  query := []
  request := "get /a".toList
  requestBody := []
  requestContentType := .none
  response? := none

/-- A hub that holds the request and runs queries without conditions. -/
def lenientHub : Hub where
  engine := ⟨.builtin, .matchAll⟩
  store := (Store.ofCapacity 1).record unanswered
  startedAt := "today".toList
  uptime := 0
  explain := fun _ _ => []

/-- A field that is asked for twice has two columns, and one without a value has an empty cell. -/
theorem linesUp_of_execute_repeated :
    (Command.query ["METHOD".toList, " Status_Code".toList, "method".toList] [] 5 false).run
        lenientHub =
      (lenientHub, .ok (Table.render
        [["method".toList, "status_code".toList, "method".toList],
          ["GET".toList, [], "GET".toList]])) := by
  have trimmed : ["METHOD".toList, " Status_Code".toList, "method".toList].map Text.trim =
      ["METHOD".toList, "Status_Code".toList, "method".toList] := by decide
  have accepted : checkInput .builtin
      (["METHOD".toList, " Status_Code".toList, "method".toList].map Text.trim) [] = .ok () := by
    rfl
  have executed : lenientHub.engine.execute (buildQuery
      (["METHOD".toList, " Status_Code".toList, "method".toList].map Text.trim) [] 5)
        lenientHub.store.history =
          .ok (Projection.project .builtin [unanswered]
            ["METHOD".toList, "Status_Code".toList, "method".toList]) := by
    rfl
  obtain ⟨query, transactions, prepared, selected, -, -, run_eq⟩ :=
    linesUp_of_execute rfl (List.cons_ne_nil _ _) accepted executed
  have query_eq : lenientHub.engine.prepare (buildQuery
      (["METHOD".toList, " Status_Code".toList, "method".toList].map Text.trim) [] 5) =
        .ok ⟨["METHOD".toList, "Status_Code".toList, "method".toList], source, [], 5⟩ := by
    rfl
  cases query_eq.symm.trans prepared
  cases selected
  rw [run_eq, if_pos (by decide), trimmed]
  rfl

end ProxyHistory.Client
