import Mathlib.Data.List.Infix
import ProxyHistory.Proofs.Selection.Conjunction
import ProxyHistory.Proofs.Store.Window

/-!
# Results of a growing and shrinking history

A history grows at its new end and loses transactions at its old end. What is recorded puts rows in
front of a result and takes the rows of the same requests off it. What is lost takes rows off the
end.
-/

namespace ProxyHistory.Selection

/-! ## Copies in two parts of a history -/

section Parts

variable {accepts : Transaction → Bool}

/-- The transactions of which none of the kept ones is a copy. -/
def withoutCopiesOf (kept : List Transaction) (transactions : List Transaction) :
    List Transaction :=
  transactions.filter fun transaction =>
    transaction.fingerprint ∉ kept.map Transaction.fingerprint

/-- Whether a newer part has an accepted copy can be told from its newest copies. -/
theorem mem_fingerprints_newestCopies_iff (newer : List Transaction) (transaction : Transaction) :
    transaction.fingerprint ∈ (newestCopies accepts newer).map Transaction.fingerprint ↔
      ∃ other ∈ newer, accepts other ∧ other.fingerprint = transaction.fingerprint := by
  rw [List.mem_map]
  constructor
  · rintro ⟨kept, member, same⟩
    obtain ⟨before, after, split, accepted, -⟩ := (mem_newestCopies_iff ..).mp member
    exact ⟨kept, split ▸ List.mem_append_right before List.mem_cons_self, accepted, same⟩
  · rintro ⟨other, member, accepted, same⟩
    obtain ⟨kept, keptMember, keptSame⟩ := exists_mem_newestCopies member accepted
    exact ⟨kept, keptMember, keptSame.trans same⟩

theorem isNewestCopy_append_iff (newer between : List Transaction) (transaction : Transaction) :
    IsNewestCopy accepts (newer ++ between) transaction ↔
      IsNewestCopy accepts between transaction ∧
        transaction.fingerprint ∉ (newestCopies accepts newer).map Transaction.fingerprint := by
  rw [mem_fingerprints_newestCopies_iff, IsNewestCopy, List.forall_mem_append, IsNewestCopy,
    and_assoc]
  simp only [not_exists, not_and, and_congr_right_iff]
  exact fun _ => and_comm

/-- The newest copies of a history in two parts are those of its newer part, and behind them those of
its older part of which none in the newer one is a copy. -/
theorem newestCopies_append (newer older : List Transaction) :
    newestCopies accepts (newer ++ older) =
      newestCopies accepts newer ++
        withoutCopiesOf (newestCopies accepts newer) (newestCopies accepts older) := by
  have inNewer : ∀ position ∈ List.range newer.length,
      (newer ++ older)[position]?.filter
          (IsNewestCopy accepts ((newer ++ older).take position) ·) =
        newer[position]?.filter (IsNewestCopy accepts (newer.take position) ·) := by
    intro position member
    have before := List.mem_range.mp member
    rw [List.getElem?_append_left before, List.take_append_of_le_length (Nat.le_of_lt before)]
  have inOlder : ∀ position ∈ List.range older.length,
      (newer ++ older)[newer.length + position]?.filter
          (IsNewestCopy accepts ((newer ++ older).take (newer.length + position)) ·) =
        (older[position]?.filter (IsNewestCopy accepts (older.take position) ·)).filter
          (·.fingerprint ∉ (newestCopies accepts newer).map Transaction.fingerprint) := by
    intro position _
    rw [List.getElem?_append_right (Nat.le_add_right ..), Nat.add_sub_cancel_left,
      List.take_length_add_append, Option.filter_filter]
    simp only [isNewestCopy_append_iff, Bool.decide_and]
  have fromOlder : withoutCopiesOf (newestCopies accepts newer) (newestCopies accepts older) =
      (List.range older.length).filterMap fun position =>
        (older[position]?.filter (IsNewestCopy accepts (older.take position) ·)).filter
          (·.fingerprint ∉ (newestCopies accepts newer).map Transaction.fingerprint) :=
    List.filter_filterMap
  rw [fromOlder, ← List.filterMap_congr inOlder, newestCopies, newestCopies, List.length_append,
    List.range_add, List.filterMap_append, List.filterMap_map, List.filterMap_congr inNewer]
  rfl

end Parts

/-! ## Results -/

theorem limitTo_mono {α : Type} {shorter longer : List α} (isPrefix : shorter <+: longer)
    (limit : Nat) : limitTo limit shorter <+: limitTo limit longer := by
  rw [limitTo, limitTo]
  split
  · exact isPrefix
  · exact isPrefix.take limit

theorem prefix_hits_append (registry : FieldRegistry) (fragments : List Text)
    (older newer : History) :
    hits registry fragments newer <+: hits registry fragments (older ++ newer) := by
  rw [hits, hits, List.reverse_append]
  split
  · exact List.prefix_append ..
  · rw [newestCopies_append]
    exact List.prefix_append ..

/-- The hits of conditions in the older part of a history come behind those in its newer part, unless
they are copies of these. -/
theorem hits_append (registry : FieldRegistry) {fragments : List Text} (nonempty : fragments ≠ [])
    (older newer : History) :
    hits registry fragments (older ++ newer) =
      hits registry fragments newer ++
        withoutCopiesOf (hits registry fragments newer) (hits registry fragments older) := by
  rw [hits, if_neg nonempty, hits, if_neg nonempty, hits, if_neg nonempty, List.reverse_append,
    newestCopies_append]

/-- The rows of the newer part of a history come first among its rows, and the limit cuts off the
last ones. -/
theorem exists_select_append (registry : FieldRegistry) {fragments : List Text}
    (unrefused : Unrefused fragments) (older newer : History) (limit : Nat) :
    ∃ whole recent, select registry (older ++ newer) fragments limit = .ok whole ∧
      select registry newer fragments limit = .ok recent ∧ recent <+: whole :=
  ⟨_, _, select_eq_hits unrefused (older ++ newer) limit, select_eq_hits unrefused newer limit,
    limitTo_mono (prefix_hits_append registry fragments older newer) limit⟩

/-- How the results of fragments change with the history. -/
structure IsStable (registry : FieldRegistry) (fragments : List Text) : Prop where
  /-- If the older part of a history is lost, only rows at the end of the result are. -/
  evicting (older newer : History) (limit : Nat) :
    ∃ whole recent, select registry (older ++ newer) fragments limit = .ok whole ∧
      select registry newer fragments limit = .ok recent ∧ recent <+: whole
  /-- If a newer part comes to a history, its rows come in front of the result, and those of the same
  requests leave it. -/
  recording (nonempty : fragments ≠ []) (older newer : History) :
    ∃ past recent, select registry older fragments 0 = .ok past ∧
      select registry newer fragments 0 = .ok recent ∧
      select registry (older ++ newer) fragments 0 = .ok (recent ++ withoutCopiesOf recent past)
  /-- A store that records a batch shows a start of what a history that loses nothing would show. -/
  storing (store : Store) (batch : List Transaction) (limit : Nat) :
    ∃ whole recent, select registry (store.history ++ batch) fragments limit = .ok whole ∧
      select registry (store.recordAll batch).history fragments limit = .ok recent ∧
      recent <+: whole

/-- Results are stable, unless a fragment is refused. -/
theorem isStable (registry : FieldRegistry) {fragments : List Text}
    (unrefused : Unrefused fragments) : IsStable registry fragments where
  evicting := exists_select_append registry unrefused
  recording nonempty older newer := by
    refine ⟨_, _, select_eq_hits unrefused older 0, select_eq_hits unrefused newer 0, ?_⟩
    rw [select_eq_hits unrefused, hits_append registry nonempty]
    rfl
  storing store batch limit := by
    obtain ⟨lost, split⟩ : (store.recordAll batch).history <:+ store.history ++ batch := by
      rw [Store.history_recordAll]
      exact List.drop_suffix ..
    rw [← split]
    exact exists_select_append registry unrefused lost _ limit

/-- A request that is sent again takes the place of the older one. -/
theorem isStable_resent :
    let sent := localPost "x=1".toList [] "2".toList
    let resent := localPost "x=1".toList "POST /p HTTP/1.1".toList "2".toList
    select .builtin [sent, resent] ["method = POST".toList] 0 = .ok [resent] := by
  intro sent resent
  have unrefused : Unrefused ["method = POST".toList] := by
    intro fragment member
    obtain rfl := List.mem_singleton.mp member
    exact ⟨_, rfl⟩
  have stable : IsStable .builtin ["method = POST".toList] := isStable .builtin unrefused
  obtain ⟨past, recent, before, alone, after⟩ := stable.recording (by simp) [sent] [resent]
  have beforeRow : select .builtin [sent] ["method = POST".toList] 0 = .ok [sent] := by rfl
  have aloneRow : select .builtin [resent] ["method = POST".toList] 0 = .ok [resent] := by rfl
  cases beforeRow.symm.trans before
  cases aloneRow.symm.trans alone
  have copy : sent.fingerprint = resent.fingerprint := by rfl
  rw [List.singleton_append] at after
  rw [after]
  simp [withoutCopiesOf, copy]

end ProxyHistory.Selection
