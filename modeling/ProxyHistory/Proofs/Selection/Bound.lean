import ProxyHistory.Engine
import ProxyHistory.Proofs.Selection.NewestCopies
import ProxyHistory.Proofs.Steps

/-!
# The number of rows

A limit bounds the rows of every query, and a fragment that fits no grammar leaves none.
-/

namespace ProxyHistory

namespace Selection

theorem mapM_id_of_none_mem {α : Type} {items : List (Option α)} (member : none ∈ items) :
    items.mapM id = none := by
  induction items with
  | nil => exact absurd member List.not_mem_nil
  | cons first items induction =>
      rw [List.mapM_cons]
      rcases List.mem_cons.mp member with rfl | later
      · rfl
      · rw [induction later]
        cases first <;> rfl

theorem exists_of_readConditions {fragments : List Text} {conditions : List Condition}
    (read : readConditions fragments = .ok (some conditions)) :
    ∀ fragment ∈ fragments, ∃ condition, Condition.parse fragment = .ok (some condition) := by
  obtain ⟨conditions?, mapped, present⟩ := exists_of_map_eq_ok read
  intro fragment member
  obtain ⟨condition?, inAll, parsed⟩ := exists_of_mapM_eq_ok mapped fragment member
  cases condition? with
  | none =>
      rw [mapM_id_of_none_mem inAll] at present
      cases present
  | some condition => exact ⟨condition, parsed⟩

section Select

variable {registry : FieldRegistry} {history : History} {fragments : List Text} {limit : Nat}
  {hits : List Transaction} (selected : select registry history fragments limit = .ok hits)

include selected

/-- What is selected is cut to the limit, and it is nothing unless each fragment fits a grammar. -/
theorem exists_limitTo_of_select :
    ∃ found, hits = limitTo limit found ∧
      (found = [] ∨
        ∀ fragment ∈ fragments, ∃ condition, Condition.parse fragment = .ok (some condition)) := by
  unfold select at selected
  split at selected
  · rename_i unconditioned
    cases selected
    rw [List.isEmpty_iff.mp unconditioned]
    exact ⟨_, rfl, .inr fun fragment member => absurd member List.not_mem_nil⟩
  · cases read : readConditions fragments with
    | error error =>
        rw [read] at selected
        cases selected
    | ok conditions? =>
        rw [read] at selected
        cases selected
        cases conditions? with
        | none => exact ⟨[], by simp [limitTo], .inl rfl⟩
        | some conditions =>
            exact ⟨_, collect_eq_limitTo .., .inr (exists_of_readConditions read)⟩

theorem length_le_of_select (limited : limit ≠ 0) : hits.length ≤ limit := by
  obtain ⟨found, rfl, -⟩ := exists_limitTo_of_select selected
  rw [limitTo, if_neg limited]
  exact List.length_take_le limit found

theorem eq_nil_of_select {fragment : Text} (member : fragment ∈ fragments)
    (unfit : ∀ condition, Condition.parse fragment ≠ .ok (some condition)) : hits = [] := by
  obtain ⟨found, rfl, rfl | fit⟩ := exists_limitTo_of_select selected
  · simp [limitTo]
  · obtain ⟨condition, fits⟩ := fit fragment member
    exact absurd fits (unfit condition)

end Select

end Selection

/-- No more than the given number of rows can come from the query: it has a limit that is no greater,
or a condition that fits no grammar. -/
def Query.IsBounded (bound : Nat) (query : Query) : Prop :=
  (query.limit ≠ 0 ∧ query.limit ≤ bound) ∨
    ∃ fragment ∈ query.conditions, ∀ condition, Condition.parse fragment ≠ .ok (some condition)

namespace Engine

theorem length_execute_le (engine : Engine) (history : History) {text : Text} {bound : Nat}
    (bounded : ∀ query, Query.parse text = .ok query → query.IsBounded bound) :
    (∃ error, engine.execute text history = .error error) ∨
      ∃ rows, engine.execute text history = .ok rows ∧ rows.length ≤ bound := by
  cases executed : engine.execute text history with
  | error error => exact .inl ⟨error, rfl⟩
  | ok rows =>
      refine .inr ⟨rows, rfl, ?_⟩
      obtain ⟨query, prepared, later⟩ := exists_of_bind_eq_ok executed
      obtain ⟨hits, selected, projected⟩ := exists_of_bind_eq_ok later
      cases projected
      have parsed : Query.parse text = .ok query := by
        obtain ⟨parsed, read, checked⟩ := exists_of_bind_eq_ok prepared
        split at checked
        · cases checked
        · cases checked
          exact read
      rw [Projection.project, List.length_map]
      rcases bounded query parsed with ⟨limited, le_bound⟩ | ⟨fragment, member, unfit⟩
      · exact Nat.le_trans (Selection.length_le_of_select selected limited) le_bound
      · rw [Selection.eq_nil_of_select selected member unfit]
        exact Nat.zero_le bound

end Engine

end ProxyHistory
