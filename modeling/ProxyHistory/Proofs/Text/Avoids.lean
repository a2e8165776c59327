import ProxyHistory.Text.Basic

/-!
# Texts without certain characters

Where a text is put together from parts, the parts can be told apart again if each of them avoids
the marks that end it.
-/

namespace ProxyHistory.Text

/-- None of the marks occurs in the text. -/
def Avoids (marks text : Text) : Prop :=
  ∀ c ∈ text, c ∉ marks

instance (marks text : Text) : Decidable (Avoids marks text) :=
  inferInstanceAs (Decidable (∀ c ∈ text, c ∉ marks))

@[simp]
theorem avoids_nil (marks : Text) : Avoids marks [] := by
  simp [Avoids]

@[simp]
theorem avoids_cons (marks : Text) (c : Char) (text : Text) :
    Avoids marks (c :: text) ↔ c ∉ marks ∧ Avoids marks text := by
  simp [Avoids]

@[simp]
theorem avoids_append (marks first second : Text) :
    Avoids marks (first ++ second) ↔ Avoids marks first ∧ Avoids marks second := by
  simp [Avoids, or_imp, forall_and]

theorem Avoids.of_subset {marks fewer text : Text} (avoids : Avoids marks text)
    (subset : fewer ⊆ marks) : Avoids fewer text :=
  fun c member => mt (@subset c) (avoids c member)

theorem forall_mem_intercalate {holds : Char → Prop} {separator : Text} {parts : List Text}
    (separatorHolds : ∀ c ∈ separator, holds c) (partsHold : ∀ part ∈ parts, ∀ c ∈ part, holds c) :
    ∀ c ∈ List.intercalate separator parts, holds c := by
  induction parts with
  | nil => simp
  | cons part rest induction =>
      have restHolds := induction fun other member => partsHold other (by simp [member])
      cases rest with
      | nil => simpa using partsHold part (by simp)
      | cons next rest =>
          rw [List.intercalate_cons_cons]
          intro c member
          rcases List.mem_append.mp member with inFront | inRest
          · rcases List.mem_append.mp inFront with inPart | inSeparator
            · exact partsHold part (by simp) c inPart
            · exact separatorHolds c inSeparator
          · exact restHolds c inRest

theorem Avoids.intercalate {marks separator : Text} {parts : List Text}
    (separatorAvoids : Avoids marks separator) (partsAvoid : ∀ part ∈ parts, Avoids marks part) :
    Avoids marks (List.intercalate separator parts) :=
  forall_mem_intercalate separatorAvoids partsAvoid

theorem of_mem_splitOnP {separates : Char → Bool} {text piece : Text} {c : Char}
    (pieceMember : piece ∈ text.splitOnP separates) (member : c ∈ piece) :
    c ∈ text ∧ ¬ separates c := by
  induction text generalizing piece with
  | nil =>
      rw [List.splitOnP_nil, List.mem_singleton] at pieceMember
      simp [pieceMember] at member
  | cons first rest induction =>
      rw [List.splitOnP_cons_eq_if_modifyHead] at pieceMember
      split at pieceMember
      · rcases List.mem_cons.mp pieceMember with empty | later
        · simp [empty] at member
        · exact (induction later member).imp_left (List.mem_cons_of_mem first)
      · rename_i notSeparating
        obtain ⟨head, pieces, split⟩ :=
          List.exists_cons_of_ne_nil (List.splitOnP_ne_nil separates rest)
        rw [split, List.modifyHead_cons] at pieceMember
        rcases List.mem_cons.mp pieceMember with here | later
        · rw [here] at member
          rcases List.mem_cons.mp member with same | member
          · simpa [same] using notSeparating
          · have headMember : head ∈ rest.splitOnP separates := by simp [split]
            exact (induction headMember member).imp_left (List.mem_cons_of_mem first)
        · have laterMember : piece ∈ rest.splitOnP separates := by simp [split, later]
          exact (induction laterMember member).imp_left (List.mem_cons_of_mem first)

/-- Two texts that go on with a mark, if they go on at all, and have none before are the same if the
whole texts are. -/
theorem eq_of_append_eq {isMark : Char → Prop} {first second firstRest secondRest : Text}
    (firstPlain : ∀ c ∈ first, ¬ isMark c) (secondPlain : ∀ c ∈ second, ¬ isMark c)
    (firstMark : ∀ c ∈ firstRest.head?, isMark c) (secondMark : ∀ c ∈ secondRest.head?, isMark c)
    (same : first ++ firstRest = second ++ secondRest) :
    first = second ∧ firstRest = secondRest := by
  induction first generalizing second with
  | nil =>
      cases second with
      | nil => simpa using same
      | cons c second =>
          rw [List.nil_append] at same
          exact absurd (firstMark c (by simp [same])) (secondPlain c (by simp))
  | cons c first induction =>
      cases second with
      | nil =>
          rw [List.nil_append] at same
          exact absurd (secondMark c (by simp [← same])) (firstPlain c (by simp))
      | cons d second =>
          simp only [List.cons_append, List.cons.injEq] at same
          obtain ⟨sameFirst, sameRest⟩ := induction
            (fun c member => firstPlain c (by simp [member]))
            (fun c member => secondPlain c (by simp [member])) same.2
          exact ⟨by rw [same.1, sameFirst], sameRest⟩

end ProxyHistory.Text
