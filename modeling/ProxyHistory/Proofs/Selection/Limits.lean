import ProxyHistory.Proofs.Query.Limited
import ProxyHistory.Proofs.Selection.Repeats

/-!
# Larger and smaller limits

A limit at the end of a query cuts its rows, so that the rows under a smaller limit come first among
those under a larger one. A number that is no integer of 64 bits is not larger than all others: it
asks for a single row, fewer than most smaller numbers do.
-/

namespace ProxyHistory

namespace Selection

/-- A limit only cuts what is selected without one. -/
theorem select_eq_map_limitTo (registry : FieldRegistry) (history : History)
    (fragments : List Text) (limit : Nat) :
    select registry history fragments limit =
      (select registry history fragments 0).map (limitTo limit) := by
  rw [select, select]
  split
  · rfl
  · cases readConditions fragments with
    | error error => rfl
    | ok conditions? =>
        cases conditions? with
        | none => simp [Except.map, limitTo]
        | some conditions =>
            have whole := collect_eq_limitTo (acceptsAll registry conditions) 0 history.reverse
            rw [if_pos rfl] at whole
            simp only [Except.map, collect_eq_limitTo, if_true, whole]
            rfl

theorem map_limitTo {α β : Type} (change : α → β) (limit : Nat) (items : List α) :
    (limitTo limit items).map change = limitTo limit (items.map change) := by
  rw [limitTo, limitTo]
  split
  · rfl
  · exact List.map_take

end Selection

namespace Query

theorem limit_of_unlimited {text : Text} {query : Query} (parsed : parse text = .ok query)
    (unlimited : Unlimited text) : query.limit = 0 := by
  obtain ⟨clauses, located, -, -, rfl⟩ := parse_eq_ok_iff.mp parsed
  simp only [Clauses.limitSpan?, unlimited clauses located]
  rfl

end Query

namespace Engine

open Query (limited readLimit)
open Selection (limitTo)

section Limited

variable (engine : Engine) (history : History) {text : Text} {query : Query}
  (parsed : Query.parse text = .ok query) (unlimited : Query.Unlimited text)
  (closed : Query.Closed text)

include parsed unlimited closed

/-- A LIMIT clause at the end of a query cuts its rows to the limit, and does nothing else. -/
theorem execute_limited {literal : Text} {number : Nat}
    (read : Text.digits? literal = some number) :
    engine.execute (limited text literal) history =
      (engine.execute text history).map (limitTo (readLimit literal)) := by
  have limit_eq := Query.limit_of_unlimited parsed unlimited
  rw [execute, execute, prepare, prepare, parsed,
    Query.parse_limited parsed unlimited closed read]
  by_cases refused : query.conditions.isEmpty ∧ engine.policy = .required
  · simp only [bind, Except.bind, if_pos refused]
    rfl
  · simp only [bind, Except.bind, if_neg refused, pure, Except.pure]
    rw [Selection.select_eq_map_limitTo, limit_eq]
    cases Selection.select engine.registry history query.conditions 0 with
    | error error => rfl
    | ok transactions =>
        simp only [Except.map, Projection.project, Selection.map_limitTo]

/-- A query fails under two limits as it does without one, or its rows under the smaller limit are a
prefix of those under the larger one. This fails only where the larger one is no integer of 64 bits,
but the smaller one is and asks for two rows or more, of which there are two at least. -/
theorem prefix_execute_limited_iff {smaller larger : Text} {few many : Nat}
    (readSmaller : Text.digits? smaller = some few) (readLarger : Text.digits? larger = some many)
    (positive : 0 < few) (ordered : few ≤ many) :
    (∃ error, engine.execute text history = .error error ∧
        engine.execute (limited text smaller) history = .error error ∧
        engine.execute (limited text larger) history = .error error) ∨
      ∃ rows, engine.execute text history = .ok rows ∧
        ∃ fewer more, engine.execute (limited text smaller) history = .ok fewer ∧
          engine.execute (limited text larger) history = .ok more ∧
          fewer = rows.take (if few < 2 ^ 63 then few else 1) ∧
          more = rows.take (if many < 2 ^ 63 then many else 1) ∧
          (fewer <+: more ↔ many < 2 ^ 63 ∨ 2 ^ 63 ≤ few ∨ few = 1 ∨ rows.length ≤ 1) := by
  rw [engine.execute_limited history parsed unlimited closed readSmaller,
    engine.execute_limited history parsed unlimited closed readLarger,
    Query.readLimit_of_digits? readSmaller, Query.readLimit_of_digits? readLarger]
  cases engine.execute text history with
  | error error => exact .inl ⟨error, rfl, rfl, rfl⟩
  | ok rows =>
      have cut {number : Nat} (above : 0 < number) :
          limitTo (if number < 2 ^ 63 then number else 1) rows =
            rows.take (if number < 2 ^ 63 then number else 1) := by
        rw [limitTo, if_neg]
        split
        · omega
        · omega
      refine .inr ⟨rows, rfl, _, _, rfl, rfl, cut positive, cut (by omega), ?_⟩
      rw [cut positive, cut (by omega), List.prefix_take_iff, List.length_take,
        and_iff_right (List.take_prefix _ _)]
      split
      · split
        · omega
        · omega
      · rw [if_neg (by omega)]
        omega

end Limited

/-- The greatest integer of 64 bits is a larger limit than two, written with a leading zero. Neither a
LIMIT in quotes nor one in front of FROM is a clause. -/
theorem prefix_execute_limited_iff_quoted :
    let text := "SELECT limit FROM 'a LIMIT 3'".toList
    let history := [Selection.localPost [] [] [], Selection.localPost [] [] []]
    ∃ fewer more,
      execute ⟨.builtin, .matchAll⟩ (limited text "02".toList) history = .ok fewer ∧
        execute ⟨.builtin, .matchAll⟩ (limited text "9223372036854775807".toList) history =
          .ok more ∧
        fewer <+: more := by
  intro text history
  have parsed : Query.parse text =
      .ok ⟨["limit".toList], "'a LIMIT 3'".toList, [], 0⟩ := by rfl
  have unlimited : Query.Unlimited text := by
    intro clauses located
    cases (Query.Clauses.locate_eq_ok_iff.mpr located).symm.trans
      (show Query.Clauses.locate (Text.trim text) = .ok ⟨0, 13, none, none, 29⟩ from rfl)
    rfl
  have closed : Query.Closed text := by decide
  have succeeds : ∃ rows, execute ⟨.builtin, .matchAll⟩ text history = .ok rows := ⟨_, rfl⟩
  rcases prefix_execute_limited_iff ⟨.builtin, .matchAll⟩ history parsed unlimited closed
      (show Text.digits? "02".toList = some 2 from rfl)
      (show Text.digits? "9223372036854775807".toList = some 9223372036854775807 from rfl)
      (by omega) (by omega) with
    ⟨error, fails, -⟩ | ⟨rows, -, fewer, more, first, second, -, -, ordered⟩
  · obtain ⟨rows, succeeds⟩ := succeeds
    rw [fails] at succeeds
    cases succeeds
  · exact ⟨fewer, more, first, second, ordered.mpr (.inl (by omega))⟩

/-- Under the least limit that is no integer of 64 bits there are fewer rows than under two. -/
theorem not_prefix_execute_limited :
    ∃ (engine : Engine) (history : History) (text : Text) (query : Query)
      (smaller larger : Text) (few many : Nat) (fewer more : List Row),
      Query.parse text = .ok query ∧ Query.Unlimited text ∧ Query.Closed text ∧
        Text.digits? smaller = some few ∧ Text.digits? larger = some many ∧
        0 < few ∧ few ≤ many ∧
        engine.execute (limited text smaller) history = .ok fewer ∧
        engine.execute (limited text larger) history = .ok more ∧ ¬ fewer <+: more := by
  let recorded := Selection.localPost [] [] []
  refine ⟨⟨.builtin, .matchAll⟩, [recorded, recorded], "SELECT url FROM proxy".toList,
    ⟨["url".toList], "proxy".toList, [], 0⟩, "2".toList, "9223372036854775808".toList, 2, 2 ^ 63,
    _, _, rfl, ?_, by decide, rfl, rfl, by decide, by decide, rfl, rfl, ?_⟩
  · intro clauses located
    cases (Query.Clauses.locate_eq_ok_iff.mpr located).symm.trans
      (show Query.Clauses.locate (Text.trim "SELECT url FROM proxy".toList) =
        .ok ⟨0, 11, none, none, 21⟩ from rfl)
    rfl
  · intro isPrefix
    have shorter : 2 ≤ 1 := isPrefix.length_le
    omega

end Engine

end ProxyHistory
