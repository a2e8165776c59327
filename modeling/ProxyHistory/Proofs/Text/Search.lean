import ProxyHistory.Text.Basic

/-!
# Searching a text

Where a text occurs in another, the search finds its first occurrence.
-/

namespace ProxyHistory.Text

theorem of_splitOnce? {separates : Char → Bool} {text before after : Text}
    (split : splitOnce? separates text = some (before, after)) :
    (∀ c ∈ before, ¬ separates c) ∧ ∃ c, separates c ∧ text = before ++ c :: after := by
  induction text generalizing before with
  | nil => cases split
  | cons first rest induction =>
      rw [splitOnce?] at split
      split at split
      · rename_i separating
        cases split
        exact ⟨fun c member => absurd member List.not_mem_nil, first, separating, rfl⟩
      · rename_i notSeparating
        obtain ⟨⟨front, back⟩, found, same⟩ := Option.map_eq_some_iff.mp split
        cases same
        obtain ⟨plain, mark, separating, rfl⟩ := induction found
        exact ⟨List.forall_mem_cons.mpr ⟨notSeparating, plain⟩, mark, separating, rfl⟩

/-- A text is split at a mark that nothing in front of it could be taken for. -/
theorem splitOnce?_append_cons {separates : Char → Bool} {before : Text} {mark : Char}
    (plain : ∀ c ∈ before, separates c = false) (separating : separates mark = true)
    (after : Text) : splitOnce? separates (before ++ mark :: after) = some (before, after) := by
  induction before with
  | nil => rw [List.nil_append, splitOnce?, if_pos separating]
  | cons c before induction =>
      obtain ⟨first, rest⟩ := List.forall_mem_cons.mp plain
      rw [List.cons_append, splitOnce?, first, induction rest]
      rfl

theorem cutAt?_eq_some {mark text before after : Text}
    (found : cutAt? mark text = some (before, after)) : text = before ++ (mark ++ after) := by
  induction text generalizing before with
  | nil =>
      simp only [cutAt?, List.isEmpty_iff] at found
      split at found
      · rename_i empty
        simp only [Option.some.injEq, Prod.mk.injEq] at found
        simp [empty, ← found.1, ← found.2]
      · simp at found
  | cons c rest induction =>
      rw [cutAt?] at found
      split at found
      · rename_i starts
        obtain ⟨tail, same⟩ := List.isPrefixOf_iff_prefix.mp starts
        simp only [Option.some.injEq, Prod.mk.injEq] at found
        rw [← found.1, ← found.2, ← same, List.drop_left, List.nil_append]
      · obtain ⟨⟨front, back⟩, foundLater, same⟩ := Option.map_eq_some_iff.mp found
        simp only [Prod.mk.injEq] at same
        rw [← same.1, List.cons_append, ← induction (same.2 ▸ foundLater)]

/-- A search finds an occurrence, or an earlier one. -/
theorem exists_cutAt? (mark front rest : Text) :
    ∃ before after, cutAt? mark (front ++ (mark ++ rest)) = some (before, after) ∧
      before <+: front := by
  induction front with
  | nil =>
      rw [List.nil_append]
      cases whole : mark ++ rest with
      | nil =>
          have empty : mark = [] := (List.append_eq_nil_iff.mp whole).1
          exact ⟨[], [], by simp [cutAt?, empty], List.prefix_rfl⟩
      | cons c tail =>
          have starts : mark.isPrefixOf (c :: tail) := by
            rw [← whole]
            exact List.isPrefixOf_iff_prefix.mpr (List.prefix_append mark rest)
          refine ⟨[], (c :: tail).drop mark.length, ?_, List.prefix_rfl⟩
          rw [cutAt?, if_pos starts]
  | cons c front induction =>
      rw [List.cons_append, cutAt?]
      split
      · exact ⟨[], _, rfl, List.nil_prefix⟩
      · obtain ⟨before, after, found, isPrefix⟩ := induction
        refine ⟨c :: before, after, ?_, List.cons_prefix_cons.mpr ⟨rfl, isPrefix⟩⟩
        rw [found, Option.map_some]

section First

variable {mark text head body : Text}

theorem length_le_of_cutAt? (found : cutAt? mark text = some (head, body)) {before after : Text}
    (occurs : text = before ++ (mark ++ after)) : head.length ≤ before.length := by
  obtain ⟨front, back, foundFront, isPrefix⟩ := exists_cutAt? mark before after
  rw [← occurs, found] at foundFront
  cases foundFront
  exact isPrefix.length_le

theorem cutAt?_of_first (occurs : text = head ++ (mark ++ body))
    (first : ∀ before after, text = before ++ (mark ++ after) → head.length ≤ before.length) :
    cutAt? mark text = some (head, body) := by
  obtain ⟨front, back, found, isPrefix⟩ := exists_cutAt? mark head body
  rw [← occurs] at found
  have split := cutAt?_eq_some found
  have same : front = head :=
    isPrefix.eq_of_length (Nat.le_antisymm isPrefix.length_le (first front back split))
  rw [same] at found split
  rw [occurs, List.append_cancel_left_eq, List.append_cancel_left_eq] at split
  rw [found, split]

end First

/-- A search finds an occurrence unless there is an earlier one, which may overlap it. -/
theorem exists_cutAt?_eq_some_iff {mark : Text} (ne_nil : mark ≠ []) (front rest : Text) :
    (∃ after, cutAt? mark (front ++ (mark ++ rest)) = some (front, after)) ↔
      ¬ mark <:+: front ++ mark.dropLast := by
  have length_pos := List.length_pos_iff.mpr ne_nil
  have length_eq : mark.dropLast.length = mark.length - 1 := List.length_dropLast
  have whole : front ++ (mark ++ rest) =
      (front ++ mark.dropLast) ++ (mark.getLast ne_nil :: rest) :=
    calc front ++ (mark ++ rest)
      _ = front ++ ((mark.dropLast ++ [mark.getLast ne_nil]) ++ rest) := by
        rw [List.dropLast_concat_getLast]
      _ = (front ++ mark.dropLast) ++ (mark.getLast ne_nil :: rest) := by
        simp only [List.append_assoc, List.singleton_append]
  constructor
  · rintro ⟨after, found⟩ ⟨left, right, occurs⟩
    have first := length_le_of_cutAt? found
      (show _ = left ++ (mark ++ (right ++ mark.getLast ne_nil :: rest)) by
        rw [whole, ← occurs]
        simp only [List.append_assoc])
    have lengths := congrArg List.length occurs
    simp only [List.length_append] at lengths
    omega
  · intro absent
    obtain ⟨before, after, found, isPrefix⟩ := exists_cutAt? mark front rest
    have split := cutAt?_eq_some found
    have same : before = front := by
      refine Decidable.byContradiction fun different => ?_
      have shorter : before.length < front.length :=
        Nat.lt_of_le_of_ne isPrefix.length_le (different ∘ isPrefix.eq_of_length)
      -- What is found ends in front of the last character of the other occurrence.
      have within : before ++ mark <+: front ++ mark.dropLast := by
        refine List.prefix_of_prefix_length_le ⟨after, ?_⟩ ⟨_, whole.symm⟩ ?_
        · rw [List.append_assoc, split]
        · simp only [List.length_append]
          omega
      obtain ⟨right, same⟩ := within
      exact absent ⟨before, right, same⟩
    exact ⟨after, same ▸ found⟩

theorem includes_iff {text part : Text} : includes text part ↔ part <:+: text := by
  rw [includes, Option.isSome_iff_exists]
  constructor
  · rintro ⟨⟨before, after⟩, found⟩
    exact ⟨before, after, by rw [cutAt?_eq_some found, List.append_assoc]⟩
  · rintro ⟨before, after, same⟩
    obtain ⟨front, back, found, -⟩ := exists_cutAt? part before after
    rw [List.append_assoc] at same
    exact ⟨(front, back), same ▸ found⟩

theorem cutAt?_eq_none_iff {text part : Text} : cutAt? part text = none ↔ ¬ part <:+: text := by
  rw [← includes_iff, includes, Bool.not_eq_true, Option.isSome_eq_false_iff, Option.isNone_iff_eq_none]

end ProxyHistory.Text
