import ProxyHistory.Proofs.Hub.Queries

/-!
# Batches as they are sent

A batch is a JSON array. It is recorded if each of its items describes an exchange and each exchange
makes up a transaction. Otherwise it is refused, and nothing of it is recorded.
-/

namespace ProxyHistory.Hub

/-- The value is a record of an exchange that makes up the transaction. -/
def Transcribes (item : Json) (transaction : Transaction) : Prop :=
  ∃ exchange, Describes item exchange ∧ exchange.Builds transaction

theorem forall₂_transcribes_iff {items : List Json} {transactions : List Transaction} :
    List.Forall₂ Transcribes items transactions ↔
      ∃ exchanges, List.Forall₂ Describes items exchanges ∧
        List.Forall₂ Exchange.Builds exchanges transactions := by
  constructor
  · intro transcribes
    induction transcribes with
    | nil => exact ⟨[], .nil, .nil⟩
    | cons first _ induction =>
        obtain ⟨exchange, describes, builds⟩ := first
        obtain ⟨exchanges, describesAll, buildsAll⟩ := induction
        exact ⟨exchange :: exchanges, .cons describes describesAll, .cons builds buildsAll⟩
  · rintro ⟨exchanges, describes, builds⟩
    induction describes generalizing transactions with
    | nil =>
        cases builds
        exact .nil
    | cons first _ induction =>
        obtain _ | ⟨built, builtAll⟩ := builds
        exact .cons ⟨_, first, built⟩ (induction builtAll)

/-! ## Recording -/

/-- The request sends a batch. -/
structure SendsBatch (request : Request) (items : List Json) : Prop where
  posts : PostsHistory request
  written : request.body = Text.encode (Json.array items).compact

/-- A batch is recorded if it is not too large and its items make up transactions. -/
theorem handle_of_sendsBatch (hub : Hub) {request : Request} {items : List Json}
    (sends : SendsBatch request items) (distinct : ∀ item ∈ items, item.HasDistinctNames) :
    (∃ transactions, Fits request ∧ List.Forall₂ Transcribes items transactions ∧
        hub.handle request = ({ hub with store := hub.store.recordAll transactions },
          recordedReply items.length
            (min hub.store.capacity (hub.store.size + items.length)))) ∨
      ((∀ transactions, ¬ (Fits request ∧ List.Forall₂ Transcribes items transactions)) ∧
        ∃ reply, 400 ≤ reply.status ∧ hub.handle request = (hub, reply)) := by
  by_cases fits : request.body.length ≤ bodyLimit
  · rw [hub.handle_of_posts request sends.posts, admitJson_eq request sends.posts.2.2, if_pos fits]
    simp only [bind, Except.bind, sends.written]
    rcases readExchanges_compact distinct with
      ⟨exchanges, describes, read⟩ | ⟨never, error, unread⟩
    · rcases hub.record_cases read with
        ⟨transactions, builds, result⟩ | ⟨index, error, fault, result⟩
      · refine .inl ⟨transactions, fits,
          forall₂_transcribes_iff.mpr ⟨exchanges, describes, builds⟩, ?_⟩
        rw [result, describes.length_eq]
      · refine .inr ⟨?_, recordRefusal index error, Nat.le_refl 400, by rw [result]⟩
        rintro transactions ⟨-, transcribes⟩
        obtain ⟨others, describesOthers, builds⟩ := forall₂_transcribes_iff.mp transcribes
        obtain rfl := rightUnique_describes.forall₂ describes describesOthers
        obtain ⟨exchange, member, unbuilt⟩ := fault.exists_mem
        obtain ⟨transaction, built⟩ := exists_builds_of_forall₂ builds exchange member
        exact unbuilt transaction built
    · obtain ⟨reply, refused⟩ : ∃ reply,
          hub.record (Text.encode (Json.array items).compact) = .error reply := by
        rw [record, orRefuse, unread]
        exact ⟨_, rfl⟩
      refine .inr ⟨?_, reply, le_status_of_record refused, by rw [refused]⟩
      rintro transactions ⟨-, transcribes⟩
      obtain ⟨exchanges, describes, -⟩ := forall₂_transcribes_iff.mp transcribes
      exact never exchanges describes
  · exact .inr ⟨fun _ both => fits both.1, Rejection.tooLarge.reply, le_status_reply _,
      hub.handle_oversized request sends.posts (Nat.lt_of_not_le fits)⟩

end ProxyHistory.Hub
