import ProxyHistory.Hub.Basic
import ProxyHistory.Proofs.Json.Records

/-!
# Exchanges as they are written

A batch is an array of records of exchanges. Which bodies are batches, and of which exchanges, is
said by the grammar of JSON. The hub reads exactly these.
-/

namespace ProxyHistory.Hub

/-- The values of the fields of an exchange. -/
def Exchange.values (exchange : Exchange) : List Json :=
  [.string exchange.url, .string exchange.request, (exchange.response?.map Json.string).getD .null]

/-- The value is a record of the exchange. -/
def Describes (item : Json) (exchange : Exchange) : Prop :=
  Json.IsRecord exchangeFields item exchange.values

/-- The body is an array of the items, in front of anything. -/
def WritesBatch (body : List UInt8) (items : List Json) : Prop :=
  ∃ rest, Json.StartsWith (Json.WritesList (Json.WritesItem exchangeFields)) (Text.decode body)
    items rest

theorem areFields_exchangeFields : Json.AreFields exchangeFields :=
  ⟨by decide, by decide⟩

theorem areStrings_exchangeFields : ∀ field ∈ exchangeFields, field.shape = .string := by
  decide

theorem ofValues?_values (exchange : Exchange) :
    Exchange.ofValues? exchange.values = some exchange := by
  obtain ⟨url, request, _ | response⟩ := exchange <;> rfl

theorem rightUnique_describes : Relator.RightUnique Describes := by
  intro item exchange other describes describesOther
  have same : exchange.values = other.values := describes.unique describesOther
  exact Option.some.inj (by rw [← ofValues?_values, same, ofValues?_values])

theorem exists_values_eq {values : List Json}
    (admits : List.Forall₂ Json.Field.Admits exchangeFields values) :
    ∃ exchange : Exchange, exchange.values = values := by
  obtain _ | ⟨first, _ | ⟨second, _ | ⟨third, _ | _⟩⟩⟩ := admits
  obtain ⟨url, rfl⟩ := first.resolve_right fun missing => by cases missing.1
  obtain ⟨request, rfl⟩ := second.resolve_right fun missing => by cases missing.1
  rcases third with ⟨response, rfl⟩ | ⟨-, rfl⟩
  · exact ⟨⟨url, request, some response⟩, rfl⟩
  · exact ⟨⟨url, request, none⟩, rfl⟩

theorem exists_describes {items : List Json} {records : List (List Json)}
    (are : List.Forall₂ (Json.IsRecord exchangeFields) items records) :
    ∃ exchanges, List.Forall₂ Describes items exchanges ∧
      records.mapM Exchange.ofValues? = some exchanges := by
  induction are with
  | nil => exact ⟨[], .nil, rfl⟩
  | cons first _ induction =>
      obtain ⟨exchange, rfl⟩ := exists_values_eq first.2
      obtain ⟨exchanges, describes, mapped⟩ := induction
      refine ⟨exchange :: exchanges, .cons first describes, ?_⟩
      rw [List.mapM_cons, ofValues?_values, mapped]
      rfl

/-- What the items of a body make up decides whether exchanges are read from it. -/
theorem readExchanges_cases {body : List UInt8} {items : List Json} {rest : RawText}
    (decided : Json.IsDecision (List.Forall₂ (Json.IsRecord exchangeFields) items) rest
      (Json.readRecords Json.depthLimit exchangeFields (Text.decode body))) :
    (∃ exchanges, List.Forall₂ Describes items exchanges ∧ readExchanges body = .ok exchanges) ∨
      ((∀ exchanges, ¬ List.Forall₂ Describes items exchanges) ∧
        ∃ error, readExchanges body = .error error) := by
  rcases decided with ⟨records, are, read⟩ | ⟨never, error, failed⟩
  · obtain ⟨exchanges, describes, mapped⟩ := exists_describes are
    exact .inl ⟨exchanges, describes, by rw [readExchanges, read]; simp only [mapped]⟩
  · refine .inr ⟨fun exchanges describes => never (exchanges.map Exchange.values) ?_, error,
      by rw [readExchanges, failed]⟩
    exact List.forall₂_map_right_iff.mpr describes

/-- The exchanges of a batch are read from it. -/
theorem readExchanges_of_writesBatch {body : List UInt8} {items : List Json}
    {exchanges : List Exchange} (writes : WritesBatch body items)
    (describes : List.Forall₂ Describes items exchanges) : readExchanges body = .ok exchanges := by
  obtain ⟨rest, starts⟩ := writes
  have decided : Json.IsDecision (List.Forall₂ (Json.IsRecord exchangeFields) items) rest
      (Json.readRecords Json.depthLimit exchangeFields (Text.decode body)) := by
    generalize Text.decode body = text at starts
    obtain ⟨isGap, writes⟩ := starts
    refine Json.isDecision_records isGap (writes.imp fun part item _ writes => ?_) rest
    exact ⟨writes.isSolid,
      Json.isDecision_item areFields_exchangeFields areStrings_exchangeFields writes⟩
  rcases readExchanges_cases decided with ⟨others, describesOthers, read⟩ | ⟨never, -⟩
  · rwa [rightUnique_describes.forall₂ describes describesOthers]
  · exact absurd describes (never exchanges)

/-- Exchanges are read from batches only. -/
theorem writesBatch_of_readExchanges {body : List UInt8} {exchanges : List Exchange}
    (read : readExchanges body = .ok exchanges) :
    ∃ items, WritesBatch body items ∧ List.Forall₂ Describes items exchanges := by
  unfold readExchanges at read
  split at read
  · cases read
  · rename_i records rest found
    obtain ⟨items, starts, are⟩ := Json.startsWith_of_readRecords areFields_exchangeFields found
    obtain ⟨others, describes, mapped⟩ := exists_describes are
    rw [mapped] at read
    cases read
    exact ⟨items, ⟨rest, starts⟩, describes⟩

/-- The compact form of an array is read if its items describe exchanges, and refused otherwise. -/
theorem readExchanges_compact {items : List Json}
    (distinct : ∀ item ∈ items, item.HasDistinctNames) :
    (∃ exchanges, List.Forall₂ Describes items exchanges ∧
        readExchanges (Text.encode (Json.array items).compact) = .ok exchanges) ∨
      ((∀ exchanges, ¬ List.Forall₂ Describes items exchanges) ∧
        ∃ error, readExchanges (Text.encode (Json.array items).compact) = .error error) := by
  have writes : Json.WritesList (fun part item => Json.IsSolid part ∧
      ∀ rest, Json.IsDecision (Json.IsRecord exchangeFields item) rest
        (Json.readRecord 126 exchangeFields (part ++ rest))) (Json.array items).compact.raw items :=
    Json.writesList_compact (List.forall₂_same.mpr fun item member => ⟨Json.isSolid_compact item,
      Json.isDecision_compact areFields_exchangeFields areStrings_exchangeFields
        (distinct item member)⟩)
  have decided := Json.isDecision_records Json.gap_nil writes []
  rw [List.nil_append, List.append_nil, ← Text.decode_encode] at decided
  exact readExchanges_cases decided

end ProxyHistory.Hub
