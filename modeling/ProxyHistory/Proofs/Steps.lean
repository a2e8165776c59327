/-!
# Steps that can fail

What is known of two steps, the second of which is taken if the first succeeds, of a step whose
errors are replaced, and of one step for each item of a list.
-/

namespace ProxyHistory

variable {ε α β : Type}

section Two

variable {step : Except ε α} {next : α → Except ε β}

/-- If two steps succeed one after the other, so does the first of them. -/
theorem exists_of_bind_eq_ok {result : β} (succeeds : (step >>= next) = .ok result) :
    ∃ value, step = .ok value ∧ next value = .ok result := by
  cases step with
  | error reason => simp [bind, Except.bind] at succeeds
  | ok value => exact ⟨value, rfl, succeeds⟩

/-- If two steps fail one after the other, either the first fails or the second does. -/
theorem exists_of_bind_eq_error {reason : ε} (fails : (step >>= next) = .error reason) :
    step = .error reason ∨ ∃ value, step = .ok value ∧ next value = .error reason := by
  cases step with
  | error earlier =>
      cases fails
      exact .inl rfl
  | ok value => exact .inr ⟨value, rfl, fails⟩

theorem exists_of_map_eq_ok {change : α → β} {result : β}
    (succeeds : change <$> step = .ok result) :
    ∃ value, step = .ok value ∧ change value = result := by
  cases step with
  | error reason => cases succeeds
  | ok value => exact ⟨value, rfl, Except.ok.inj succeeds⟩

end Two

section Replaced

variable {δ : Type} {step : Except ε α} {change : ε → δ}

theorem exists_of_mapError_eq_error {reason : δ} (fails : step.mapError change = .error reason) :
    ∃ earlier, step = .error earlier ∧ change earlier = reason := by
  cases step with
  | error earlier => exact ⟨earlier, rfl, Except.error.inj fails⟩
  | ok value => cases fails

theorem eq_ok_of_mapError_eq_ok {value : α} (succeeds : step.mapError change = .ok value) :
    step = .ok value := by
  cases step with
  | error earlier => cases succeeds
  | ok value => exact congrArg Except.ok (Except.ok.inj succeeds)

end Replaced

section Each

variable {step : α → Except ε β} {items : List α}

theorem exists_of_mapM_eq_ok {results : List β} (succeed : items.mapM step = .ok results) :
    ∀ item ∈ items, ∃ result ∈ results, step item = .ok result := by
  induction items generalizing results with
  | nil => exact fun item member => absurd member List.not_mem_nil
  | cons item items induction =>
      rw [List.mapM_cons] at succeed
      obtain ⟨result, first, succeed⟩ := exists_of_bind_eq_ok succeed
      obtain ⟨later, rest, ⟨⟩⟩ := exists_of_bind_eq_ok succeed
      refine List.forall_mem_cons.mpr ⟨⟨result, List.mem_cons_self, first⟩, fun other member => ?_⟩
      obtain ⟨found, inLater, same⟩ := induction rest other member
      exact ⟨found, List.mem_cons_of_mem result inLater, same⟩

/-- The first step that fails is the one that is reported. -/
theorem mapM_eq_error_iff {reason : ε} :
    items.mapM step = .error reason ↔
      ∃ before item after, items = before ++ item :: after ∧
        (∀ earlier ∈ before, ∃ result, step earlier = .ok result) ∧ step item = .error reason := by
  induction items with
  | nil =>
      constructor
      · intro fails
        cases fails
      · rintro ⟨before, item, after, split, -, -⟩
        simp at split
  | cons item items induction =>
      constructor
      · intro fails
        rw [List.mapM_cons] at fails
        rcases exists_of_bind_eq_error fails with first | ⟨result, first, fails⟩
        · exact ⟨[], item, items, rfl, fun _ member => absurd member List.not_mem_nil, first⟩
        · rcases exists_of_bind_eq_error fails with rest | ⟨later, -, fails⟩
          · obtain ⟨before, failing, after, rfl, succeed, failed⟩ := induction.mp rest
            exact ⟨item :: before, failing, after, rfl,
              List.forall_mem_cons.mpr ⟨⟨result, first⟩, succeed⟩, failed⟩
          · cases fails
      · rintro ⟨before, failing, after, split, succeed, failed⟩
        rw [List.mapM_cons]
        cases before with
        | nil =>
            obtain ⟨rfl, rfl⟩ := List.cons.inj split
            rw [failed]
            rfl
        | cons earlier before =>
            obtain ⟨rfl, rfl⟩ := List.cons.inj split
            obtain ⟨⟨result, first⟩, succeed⟩ := List.forall_mem_cons.mp succeed
            have rest := induction.mpr ⟨before, failing, after, rfl, succeed, failed⟩
            rw [first, rest]
            rfl

end Each

theorem mapM_eq_some {step : α → Option β} {result : α → β} {items : List α}
    (succeeds : ∀ item ∈ items, step item = some (result item)) :
    items.mapM step = some (items.map result) := by
  induction items with
  | nil => rfl
  | cons item items induction =>
      obtain ⟨first, others⟩ := List.forall_mem_cons.mp succeeds
      rw [List.mapM_cons, first, induction others]
      rfl

end ProxyHistory
