import ProxyHistory.Proofs.Selection.Bound

/-!
# What a query is refused for

A query is refused for its text alone, before any transaction is looked at: because it cannot be
prepared, or for the first of its conditions that is refused. A condition that fits no grammar is no
reason to refuse the query. It leaves no rows, and it keeps no refusal behind it from being seen.
-/

namespace ProxyHistory

/-- The first of the fragments that is refused is refused with the error. Those before it may fit a
grammar or not. -/
def IsFirstRefusal (fragments : List Text) (error : QueryError) : Prop :=
  ∃ before fragment after, fragments = before ++ fragment :: after ∧
    (∀ earlier ∈ before, ∃ condition?, Condition.parse earlier = .ok condition?) ∧
      Condition.parse fragment = .error error

theorem isFirstRefusal_iff {fragments : List Text} {error : QueryError} :
    IsFirstRefusal fragments error ↔ fragments.mapM Condition.parse = .error error :=
  mapM_eq_error_iff.symm

theorem exists_isFirstRefusal_iff {fragments : List Text} :
    (∃ error, IsFirstRefusal fragments error) ↔
      ∃ fragment ∈ fragments, ∃ error, Condition.parse fragment = .error error := by
  constructor
  · rintro ⟨error, before, fragment, after, rfl, -, refused⟩
    exact ⟨fragment, List.mem_append_right before List.mem_cons_self, error, refused⟩
  · rintro ⟨fragment, member, error, refused⟩
    cases mapped : fragments.mapM Condition.parse with
    | error first => exact ⟨first, isFirstRefusal_iff.mpr mapped⟩
    | ok conditions? =>
        obtain ⟨condition?, -, read⟩ := exists_of_mapM_eq_ok mapped fragment member
        rw [refused] at read
        cases read

namespace Selection

variable (registry : FieldRegistry) (history : History) {fragments : List Text} (limit : Nat)

/-- Nothing but a refused fragment makes a selection fail, whatever the history and the limit. -/
theorem select_eq_error_iff {error : QueryError} :
    select registry history fragments limit = .error error ↔ IsFirstRefusal fragments error := by
  rw [isFirstRefusal_iff, select]
  split
  · rename_i unconditioned
    rw [List.isEmpty_iff.mp unconditioned]
    constructor
    · intro fails
      cases fails
    · intro fails
      cases fails
  · rw [readConditions]
    cases fragments.mapM Condition.parse with
    | error first => simp [Except.map]
    | ok conditions? => simp [Except.map]

end Selection

namespace Engine

variable (engine : Engine) (text : Text)

/-- The query is refused with the error: as a whole, or for the first of its conditions that is
refused. -/
inductive Refuses : QueryError → Prop
  | unprepared {error : QueryError} (failed : engine.prepare text = .error error) : Refuses error
  | condition {query : Query} {error : QueryError} (prepared : engine.prepare text = .ok query)
      (first : IsFirstRefusal query.conditions error) : Refuses error

theorem execute_eq_error_iff (history : History) (error : QueryError) :
    engine.execute text history = .error error ↔ engine.Refuses text error := by
  constructor
  · intro fails
    rcases exists_of_bind_eq_error fails with failed | ⟨query, prepared, fails⟩
    · exact .unprepared failed
    · rcases exists_of_bind_eq_error fails with unselected | ⟨hits, -, fails⟩
      · exact .condition prepared ((Selection.select_eq_error_iff _ _ _).mp unselected)
      · cases fails
  · rintro (failed | @⟨query, _, prepared, first⟩)
    · rw [execute, failed]
      rfl
    · have unselected :=
        (Selection.select_eq_error_iff engine.registry history query.limit).mpr first
      rw [execute, prepared]
      simp only [bind, Except.bind, unselected]

/-- A query is refused as a whole or for some of its conditions, or it is not refused. -/
theorem exists_refuses_iff :
    (∃ error, engine.Refuses text error) ↔
      (∃ error, engine.prepare text = .error error) ∨
        ∃ query, engine.prepare text = .ok query ∧
          ∃ fragment ∈ query.conditions, ∃ error, Condition.parse fragment = .error error := by
  constructor
  · rintro ⟨error, failed | ⟨prepared, first⟩⟩
    · exact .inl ⟨error, failed⟩
    · exact .inr ⟨_, prepared, exists_isFirstRefusal_iff.mp ⟨error, first⟩⟩
  · rintro (⟨error, failed⟩ | ⟨query, prepared, refused⟩)
    · exact ⟨error, .unprepared failed⟩
    · obtain ⟨error, first⟩ := exists_isFirstRefusal_iff.mpr refused
      exact ⟨error, .condition prepared first⟩

theorem execute_of_unfit {query : Query} (prepared : engine.prepare text = .ok query)
    {fragment : Text} (member : fragment ∈ query.conditions)
    (unfit : Condition.parse fragment = .ok none) (granted : ∀ error, ¬ engine.Refuses text error)
    (history : History) : engine.execute text history = .ok [] := by
  cases executed : engine.execute text history with
  | error error =>
      exact absurd ((engine.execute_eq_error_iff text history error).mp executed) (granted error)
  | ok rows =>
      obtain ⟨prepared', read, executed⟩ := exists_of_bind_eq_ok executed
      obtain ⟨hits, selected, projected⟩ := exists_of_bind_eq_ok executed
      cases prepared.symm.trans read
      cases projected
      have nothing : hits = [] := Selection.eq_nil_of_select selected member (by simp [unfit])
      rw [nothing]
      rfl

/-- The text of a query settles whether it is refused, and why. -/
structure IsSettledByText : Prop where
  /-- An error against one history is the error against every other. -/
  uniform : ∀ error, (∃ history, engine.execute text history = .error error) ↔
    ∀ history, engine.execute text history = .error error
  /-- The error is that of the query as a whole, or else of its first condition that has one. -/
  refused : ∀ history error,
    engine.execute text history = .error error ↔ engine.Refuses text error
  /-- There is an error if the query as a whole has one, or any of its conditions. -/
  failing : ∀ history, (∃ error, engine.execute text history = .error error) ↔
    (∃ error, engine.prepare text = .error error) ∨
      ∃ query, engine.prepare text = .ok query ∧
        ∃ fragment ∈ query.conditions, ∃ error, Condition.parse fragment = .error error
  /-- Without an error a condition that fits no grammar leaves no rows. -/
  unfit : ∀ query, engine.prepare text = .ok query →
    (∃ fragment ∈ query.conditions, Condition.parse fragment = .ok none) →
      (∀ history error, engine.execute text history ≠ .error error) →
        ∀ history, engine.execute text history = .ok []

/-- No refusal depends on the history. -/
theorem isSettledByText : engine.IsSettledByText text where
  uniform error := by
    constructor
    · rintro ⟨history, fails⟩ other
      rw [engine.execute_eq_error_iff] at fails ⊢
      exact fails
    · intro fails
      exact ⟨[], fails []⟩
  refused := engine.execute_eq_error_iff text
  failing history := by
    simp only [engine.execute_eq_error_iff, engine.exists_refuses_iff]
  unfit query prepared unfit succeeds := by
    obtain ⟨fragment, member, fitsNone⟩ := unfit
    refine engine.execute_of_unfit text prepared member fitsNone fun error refuses => ?_
    exact succeeds [] error ((engine.execute_eq_error_iff text [] error).mpr refuses)

/-- A query with a condition that fits no grammar gives no rows, whatever was recorded. -/
theorem isSettledByText_nonsense :
    ¬ ∃ history, execute ⟨.builtin, .required⟩
      "SELECT url FROM proxy WHERE nonsense LIMIT 1".toList history ≠ .ok [] := by
  rintro ⟨history, hits⟩
  have settled :=
    isSettledByText ⟨.builtin, .required⟩ "SELECT url FROM proxy WHERE nonsense LIMIT 1".toList
  have unrefused : execute ⟨.builtin, .required⟩
      "SELECT url FROM proxy WHERE nonsense LIMIT 1".toList [] = .ok [] := by rfl
  refine hits (settled.unfit ⟨["url".toList], "proxy".toList, ["nonsense".toList], 1⟩ (by rfl)
    ⟨"nonsense".toList, List.mem_singleton_self _, by rfl⟩ (fun other error fails => ?_) history)
  have failsOnNone := (settled.uniform error).mp ⟨other, fails⟩ []
  rw [unrefused] at failsOnNone
  cases failsOnNone

/-- A condition that fits no grammar does not hide the refusal of one behind it. -/
example : execute ⟨.builtin, .required⟩
    "SELECT url FROM proxy WHERE nonsense and method ~ GET and len(url) like 1 LIMIT 1".toList [] =
      .error (.unsupportedOperator "~".toList .standard) := by
  rfl

end Engine

end ProxyHistory
