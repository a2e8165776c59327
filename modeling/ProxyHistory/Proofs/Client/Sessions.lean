import ProxyHistory.Proofs.Client.Envelope
import ProxyHistory.Proofs.Client.Transports
import ProxyHistory.Proofs.Hub.Batches

/-!
# Sessions of commands

Of all commands only those that ingest a file change a hub, and they do so as a whole or not at all.
What such a command prints counts the transactions of the file and those that the hub holds then.
-/

namespace ProxyHistory.Client

open Hub (Fits SendsBatch Transcribes recordedReply)

/-- The file holds a JSON array of the items. -/
def FileContent.Holds (content : FileContent) (items : List Json) : Prop :=
  ∃ text, content = .content text ∧ Json.parse text = .ok (.array items)

theorem FileContent.Holds.unique {content : FileContent} {items others : List Json}
    (holds : content.Holds items) (holdsOthers : content.Holds others) : items = others := by
  obtain ⟨text, rfl, parsed⟩ := holds
  obtain ⟨_, ⟨⟩, parsedOther⟩ := holdsOthers
  cases parsed.symm.trans parsedOther
  rfl

/-- The request that sends a batch. -/
def batchRequest (items : List Json) : Request :=
  jsonRequest "/api/history" (.array items)

/-- The file holds a batch that can be recorded: it is not too large, and its items make up the
transactions. -/
structure IsBatch (content : FileContent) (items : List Json) (transactions : List Transaction) :
    Prop where
  holds : content.Holds items
  fits : Fits (batchRequest items)
  transcribes : List.Forall₂ Transcribes items transactions

/-- What is printed of a batch when the hub holds the given number of transactions then. -/
def recordedText (recorded stored : Nat) : Text :=
  "Recorded ".toList ++ Text.ofNat recorded ++ " transactions (".toList ++ Text.ofNat stored ++
    " stored)".toList

/-! ## Files and replies -/

theorem readArray_cases (file : Text) (content : FileContent) :
    (∃ items, content.Holds items ∧ readArray file content = .ok (.array items)) ∨
      ((∀ items, ¬ content.Holds items) ∧ ∃ error, readArray file content = .error error) := by
  cases content with
  | missing => exact .inr ⟨by rintro items ⟨text, ⟨⟩, -⟩, _, rfl⟩
  | unreadable reason => exact .inr ⟨by rintro items ⟨text, ⟨⟩, -⟩, _, rfl⟩
  | content text =>
      have holds_iff (items : List Json) :
          FileContent.Holds (.content text) items ↔ Json.parse text = .ok (.array items) := by
        constructor
        · rintro ⟨_, ⟨⟩, parsed⟩
          exact parsed
        · exact fun parsed => ⟨text, rfl, parsed⟩
      simp only [holds_iff]
      cases parsed : Json.parse text with
      | error error => exact .inr ⟨nofun, _, by rw [readArray, parsed]⟩
      | ok value =>
          cases value with
          | array items => exact .inl ⟨items, rfl, by rw [readArray, parsed]⟩
          | null | bool | integer | real | string | object =>
              exact .inr ⟨nofun, _, by rw [readArray, parsed]⟩

theorem sendsBatch_batchRequest (items : List Json) : SendsBatch (batchRequest items) items where
  posts := ⟨rfl, rfl, by rfl⟩
  written := rfl

theorem length_le_of_fits {items : List Json} (fits : Fits (batchRequest items)) :
    items.length ≤ Hub.bodyLimit :=
  calc items.length
    _ ≤ (Json.compactItems items).length := Json.length_le_compactItems items
    _ ≤ (Json.array items).compact.length := by
        rw [Json.compact, List.length_append, List.length_cons]
        omega
    _ ≤ (Text.encode (Json.array items).compact).length :=
        Text.length_le_flatMap Text.encodeChar_ne_nil _
    _ ≤ Hub.bodyLimit := fits

/-- The data of the reply to a batch that was recorded. -/
def summary (recorded stored : Nat) : Entries Json :=
  [("recorded".toList, .integer recorded), ("stored".toList, .integer stored)]

theorem print_recordedReply {recorded stored : Nat} (recordedSmall : recorded < 2 ^ 64)
    (storedSmall : stored < 2 ^ 64) :
    (do return renderSummary (← Envelope.ofReply 202 (recordedReply recorded stored).bodyText)) =
      Except.ok (recordedText recorded stored) := by
  have sorted : (summary recorded stored).Sorted := by
    simp only [summary, Entries.Sorted, List.pairwise_cons, List.forall_mem_singleton,
      List.not_mem_nil, false_imp_iff, implies_true, List.Pairwise.nil, and_true]
    decide
  have numbers : ∀ member ∈ summary recorded stored, member.2.IsPlain := by
    rw [summary, List.forall_mem_cons, List.forall_mem_singleton]
    exact ⟨.integer recorded (by omega) (by omega), .integer stored (by omega) (by omega)⟩
  have shallow : (Json.object (summary recorded stored)).nesting ≤ 126 := Nat.le_add_left 1 125
  have read : Envelope.ofReply 202 (recordedReply recorded stored).bodyText =
      .ok ⟨200, "success".toList, .object (summary recorded stored)⟩ :=
    Envelope.ofReply_envelope (by decide) (.object _ sorted numbers) shallow 202
  rw [read]
  rfl

/-! ## Commands -/

section Commands

variable {hub : Hub}

/-- Whatever is asked of a hub but to record a batch leaves it as it is. -/
theorem run_of_not_ingest (command : Command)
    (noIngest : ∀ file content, command ≠ .ingest file content) : (command.run hub).1 = hub := by
  cases planned : command.plan with
  | error error => rw [run_of_plan_error planned]
  | ok plan =>
      rw [run_of_plan planned]
      cases command with
      | query fields conditions limit asJson =>
          obtain ⟨-, -, ⟨⟩⟩ := exists_of_bind_eq_ok planned
          rw [hub.handle_of_sendsForm (sendsForm_formRequest _)]
      | raw query asJson =>
          cases planned
          rw [hub.handle_of_sendsJson (sendsJson_queryRequest query)]
      | ingest file content => exact absurd rfl (noIngest file content)
      | status =>
          cases planned
          have routed : Hub.route statusRequest.method statusRequest.path = .ok .status := rfl
          rw [hub.handle_of_route statusRequest (by decide) (by decide) routed]
          rfl

/-- A file is ingested if it holds a batch, and refused without any effect otherwise. -/
theorem run_ingest_cases (bounded : hub.store.capacity < 2 ^ 64) (file : Text)
    (content : FileContent) :
    (∃ items transactions, IsBatch content items transactions ∧
        (Command.ingest file content).run hub =
          ({ hub with store := hub.store.recordAll transactions },
            .ok (recordedText items.length
              (min hub.store.capacity (hub.store.size + items.length))))) ∨
      ((∀ items transactions, ¬ IsBatch content items transactions) ∧
        ∃ error, (Command.ingest file content).run hub = (hub, .error error)) := by
  rcases readArray_cases file content with ⟨items, holds, read⟩ | ⟨never, error, failed⟩
  · have planned : (Command.ingest file content).plan =
        .ok ⟨batchRequest items, fun status body => do
          return renderSummary (← Envelope.ofReply status body)⟩ := by
      rw [Command.plan, read]
      rfl
    have distinct : ∀ item ∈ items, item.HasDistinctNames := by
      obtain ⟨text, -, parsed⟩ := holds
      exact Json.hasDistinctNames_of_parse parsed
    rw [run_of_plan planned]
    rcases hub.handle_of_sendsBatch (sendsBatch_batchRequest items) distinct with
      ⟨transactions, fits, transcribes, handled⟩ | ⟨never, reply, refused, handled⟩
    · refine .inl ⟨items, transactions, ⟨holds, fits, transcribes⟩, ?_⟩
      have recordedSmall : items.length < 2 ^ 64 :=
        Nat.lt_of_le_of_lt (length_le_of_fits fits) (by decide)
      have storedSmall : min hub.store.capacity (hub.store.size + items.length) < 2 ^ 64 :=
        Nat.lt_of_le_of_lt (Nat.min_le_left _ _) bounded
      rw [handled]
      exact congrArg _ (print_recordedReply recordedSmall storedSmall)
    · obtain ⟨error, failed⟩ := Envelope.exists_ofReply_eq_error refused reply.bodyText
      refine .inr ⟨fun others transactions batch => ?_, error, ?_⟩
      · obtain rfl := holds.unique batch.holds
        exact never transactions ⟨batch.fits, batch.transcribes⟩
      · rw [handled]
        simp only [failed, bind, Except.bind]
  · refine .inr ⟨fun items _ batch => never items batch.holds, error, run_of_plan_error ?_⟩
    rw [Command.plan, failed]
    rfl

end Commands

/-! ## Sessions -/

/-- The hub after some commands. -/
def runAll (hub : Hub) (commands : List Command) : Hub :=
  commands.foldl (fun hub command => (command.run hub).1) hub

/-- What a command records: the transactions of a batch that it ingests, and nothing otherwise. -/
inductive Records : Command → List Transaction → Prop
  | batch (file : Text) {content : FileContent} {items : List Json}
      {transactions : List Transaction} (isBatch : IsBatch content items transactions) :
      Records (.ingest file content) transactions
  | nothing {command : Command} (noBatch : ∀ file content items transactions,
      command = .ingest file content → ¬ IsBatch content items transactions) : Records command []

/-- What a command does to a hub, and what it gives then. -/
structure RespectsStore (hub : Hub) (command : Command) (after : Hub)
    (result : Except ClientError Text) : Prop where
  /-- Only a command that ingests a file changes the hub. -/
  asked : (∀ file content, command ≠ .ingest file content) → after = hub
  /-- A command that fails does not change the hub. -/
  failed : ∀ error, result = .error error → after = hub
  /-- A file that is ingested is recorded in its order, and the text that is printed counts its
  items and what the store holds then. -/
  ingested : ∀ file content printed, command = .ingest file content → result = .ok printed →
    ∃ items transactions, IsBatch content items transactions ∧
      after = { hub with store := after.store } ∧
      after.store.capacity = hub.store.capacity ∧
      after.store.history = (hub.store.history ++ transactions).rtake hub.store.capacity ∧
      printed = recordedText items.length (min hub.store.capacity (hub.store.size + items.length))
  /-- A file is ingested exactly if it holds a batch that can be recorded. -/
  accepted : ∀ file content, command = .ingest file content →
    ((∃ printed, result = .ok printed) ↔ ∃ items transactions, IsBatch content items transactions)

section Runs

variable {hub : Hub} (bounded : hub.store.capacity < 2 ^ 64)

include bounded

theorem run_cases (command : Command) :
    (∃ file content items transactions, command = .ingest file content ∧
        IsBatch content items transactions ∧
        command.run hub = ({ hub with store := hub.store.recordAll transactions },
          .ok (recordedText items.length
            (min hub.store.capacity (hub.store.size + items.length))))) ∨
      ((command.run hub).1 = hub ∧ ∀ file content, command = .ingest file content →
        (∀ items transactions, ¬ IsBatch content items transactions) ∧
          ∃ error, (command.run hub).2 = .error error) := by
  by_cases ingests : ∃ file content, command = .ingest file content
  · obtain ⟨file, content, rfl⟩ := ingests
    rcases run_ingest_cases bounded file content with
      ⟨items, transactions, batch, run_eq⟩ | ⟨never, error, run_eq⟩
    · exact .inl ⟨file, content, items, transactions, rfl, batch, run_eq⟩
    · refine .inr ⟨by rw [run_eq], ?_⟩
      rintro _ _ ⟨⟩
      exact ⟨never, error, by rw [run_eq]⟩
  · have noIngest : ∀ file content, command ≠ .ingest file content :=
      fun file content is => ingests ⟨file, content, is⟩
    exact .inr ⟨run_of_not_ingest command noIngest,
      fun file content is => absurd is (noIngest file content)⟩

theorem respectsStore_run (command : Command) :
    RespectsStore hub command (command.run hub).1 (command.run hub).2 := by
  rcases run_cases bounded command with
    ⟨file, content, items, transactions, rfl, batch, run_eq⟩ | ⟨kept, refused⟩
  · rw [run_eq]
    refine ⟨fun no => absurd rfl (no file content), nofun, ?_, ?_⟩
    · rintro _ _ _ ⟨⟩ ⟨⟩
      exact ⟨items, transactions, batch, rfl, hub.store.capacity_recordAll transactions,
        hub.store.history_recordAll transactions, rfl⟩
    · rintro _ _ ⟨⟩
      exact ⟨fun _ => ⟨items, transactions, batch⟩, fun _ => ⟨_, rfl⟩⟩
  · refine ⟨fun _ => kept, fun _ _ => kept, fun file content printed is succeeded => ?_,
      fun file content is => ?_⟩
    · obtain ⟨-, error, failed⟩ := refused file content is
      cases failed.symm.trans succeeded
    · obtain ⟨never, error, failed⟩ := refused file content is
      constructor
      · rintro ⟨printed, succeeded⟩
        cases failed.symm.trans succeeded
      · rintro ⟨items, transactions, batch⟩
        exact absurd batch (never items transactions)

theorem exists_records_run (command : Command) :
    ∃ batch, Records command batch ∧
      (command.run hub).1 = { hub with store := hub.store.recordAll batch } := by
  rcases run_cases bounded command with
    ⟨file, content, items, transactions, rfl, batch, run_eq⟩ | ⟨kept, refused⟩
  · exact ⟨transactions, .batch file batch, by rw [run_eq]⟩
  · exact ⟨[], .nothing fun file content items transactions is =>
      (refused file content is).1 items transactions, kept⟩

/-- A session puts what its commands record behind what the hub holds. -/
theorem exists_records_runAll (commands : List Command) :
    ∃ batches, List.Forall₂ Records commands batches ∧
      runAll hub commands = { hub with store := hub.store.recordAll batches.flatten } := by
  induction commands generalizing hub with
  | nil => exact ⟨[], .nil, rfl⟩
  | cons command commands induction =>
      obtain ⟨batch, records, run_eq⟩ := exists_records_run bounded command
      have laterBounded : (command.run hub).1.store.capacity < 2 ^ 64 := by
        rw [run_eq]
        rwa [Store.capacity_recordAll]
      obtain ⟨batches, recordsAll, runAll_eq⟩ := induction laterBounded
      refine ⟨batch :: batches, .cons records recordsAll, ?_⟩
      have step : runAll hub (command :: commands) = runAll (command.run hub).1 commands := rfl
      rw [step, runAll_eq, run_eq, List.flatten_cons, Store.recordAll_append]

/-- In a session the store holds the end of what it held before and what the commands have recorded,
and each command does to the store what it should. -/
theorem session_respectsStore (before : List Command) (command : Command) :
    (∃ batches, List.Forall₂ Records before batches ∧
        (runAll hub before).store.capacity = hub.store.capacity ∧
        (runAll hub before).store.history =
          (hub.store.history ++ batches.flatten).rtake hub.store.capacity) ∧
      RespectsStore (runAll hub before) command (command.run (runAll hub before)).1
        (command.run (runAll hub before)).2 := by
  obtain ⟨batches, records, runAll_eq⟩ := exists_records_runAll bounded before
  have capacity_eq : (runAll hub before).store.capacity = hub.store.capacity := by
    rw [runAll_eq, Store.capacity_recordAll]
  refine ⟨⟨batches, records, capacity_eq, ?_⟩, respectsStore_run (by rwa [capacity_eq]) command⟩
  rw [runAll_eq, Store.history_recordAll]

end Runs

/-- A command that ingests a file with two exchanges. -/
def ingestPair : Command :=
  .ingest "pair.json".toList (.content Hub.pairText)

/-- A hub with room for one transaction keeps the second of a file, however often it is ingested. -/
theorem session_respectsStore_pair :
    (ingestPair.run (runAll Hub.narrow [ingestPair, .status])).2 =
        .ok "Recorded 2 transactions (1 stored)".toList ∧
      ∃ items transactions, IsBatch (.content Hub.pairText) items transactions ∧
        (ingestPair.run (runAll Hub.narrow [ingestPair, .status])).1.store.history =
          ((runAll Hub.narrow [ingestPair, .status]).store.history ++ transactions).rtake 1 := by
  have printed : (ingestPair.run (runAll Hub.narrow [ingestPair, .status])).2 =
      .ok "Recorded 2 transactions (1 stored)".toList := by
    decide +kernel
  have bounded : Hub.narrow.store.capacity < 2 ^ 64 := by decide
  obtain ⟨⟨-, -, capacity_eq, -⟩, respects⟩ :=
    session_respectsStore bounded [ingestPair, .status] ingestPair
  obtain ⟨items, transactions, batch, -, -, history, -⟩ := respects.ingested _ _ _ rfl printed
  rw [capacity_eq] at history
  exact ⟨printed, items, transactions, batch, history⟩

end ProxyHistory.Client
