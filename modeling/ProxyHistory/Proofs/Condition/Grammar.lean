import ProxyHistory.Condition.Parser
import ProxyHistory.Proofs.Query.Scan

/-!
# The grammar of fields

The names that conditions are about, and what the readers of a condition take off its front: a field
or a run of characters, where something follows that cannot continue it.
-/

namespace ProxyHistory.Condition

open Text (isBlank)
open Query (isQuote IsWord)

/-- A name: a letter or an underscore, and characters that continue it. -/
def IsName (name : Text) : Prop :=
  ∃ first rest, name = first :: rest ∧ startsName first ∧ ∀ c ∈ rest, continuesName c

/-- A field: a name, or two names with a dot between them. -/
inductive IsField : Text → Prop
  | name {name : Text} : IsName name → IsField name
  | member {owner name : Text} : IsName owner → IsName name → IsField (owner ++ '.' :: name)

/-- Nothing that satisfies a test stands in front of the text. -/
def Stops (test : Char → Bool) (text : Text) : Prop :=
  ∀ c ∈ text.head?, test c = false

instance (test : Char → Bool) (text : Text) : Decidable (Stops test text) :=
  inferInstanceAs (Decidable (∀ c ∈ text.head?, test c = false))

section Runs

variable {test : Char → Bool} {run rest : Text}

theorem takeWhile_run (holds : ∀ c ∈ run, test c) (stops : Stops test rest) :
    (run ++ rest).takeWhile test = run := by
  have none : rest.takeWhile test = [] := by
    cases rest with
    | nil => rfl
    | cons c rest => exact List.takeWhile_cons_of_neg (by simp [stops c rfl])
  rw [List.takeWhile_append_of_pos holds, none, List.append_nil]

theorem dropWhile_run (holds : ∀ c ∈ run, test c) (stops : Stops test rest) :
    (run ++ rest).dropWhile test = rest := by
  rw [List.dropWhile_append_of_pos holds]
  cases rest with
  | nil => rfl
  | cons c rest => exact List.dropWhile_cons_of_neg (by simp [stops c rfl])

theorem takeRun?_append (ne_nil : run ≠ []) (holds : ∀ c ∈ run, test c) (stops : Stops test rest) :
    takeRun? test (run ++ rest) = some (run, rest) := by
  rw [takeRun?, takeWhile_run holds stops, dropWhile_run holds stops]
  cases run with
  | nil => exact absurd rfl ne_nil
  | cons c run => rfl

end Runs

theorem takeName?_append {name rest : Text} (isName : IsName name)
    (stops : Stops continuesName rest) : takeName? (name ++ rest) = some (name, rest) := by
  obtain ⟨first, others, rfl, starts, continues⟩ := isName
  rw [List.cons_append, takeName?, if_pos starts, takeWhile_run continues stops,
    dropWhile_run continues stops]

theorem takeField?_append {field rest : Text} (isField : IsField field)
    (stops : Stops continuesName rest) (noDot : ∀ c ∈ rest.head?, c ≠ '.') :
    takeField? (field ++ rest) = some (field, rest) := by
  cases isField with
  | name isName =>
      rw [takeField?, takeName?_append isName stops]
      dsimp only
      split
      · exact absurd rfl (noDot '.' rfl)
      · rfl
  | member ownerIsName nameIsName =>
      rw [takeField?, List.append_assoc, List.cons_append,
        takeName?_append ownerIsName (by intro c head; simp at head; subst head; decide)]
      simp [takeName?_append nameIsName stops]

theorem continuesName_of_startsName {c : Char} (starts : startsName c) : continuesName c := by
  rw [startsName, Bool.or_eq_true, beq_iff_eq] at starts
  rcases starts with letter | rfl
  · have ascii : c.toNat < 0x80 := by
      rw [Text.isAlpha_iff] at letter
      omega
    simp [continuesName, Text.isWordChar, ascii, Char.isAlphanum, letter]
  · decide

theorem IsName.continues {name : Text} (isName : IsName name) : ∀ c ∈ name, continuesName c := by
  obtain ⟨first, rest, rfl, starts, continues⟩ := isName
  rw [List.forall_mem_cons]
  exact ⟨continuesName_of_startsName starts, continues⟩

theorem IsName.ne_nil {name : Text} (isName : IsName name) : name ≠ [] := by
  obtain ⟨first, rest, rfl, -⟩ := isName
  exact List.cons_ne_nil first rest

theorem IsField.ne_nil {field : Text} (isField : IsField field) : field ≠ [] := by
  cases isField with
  | name isName => exact isName.ne_nil
  | member => simp

theorem IsField.continues {field : Text} (isField : IsField field) :
    ∀ c ∈ field, continuesName c ∨ c = '.' := by
  intro c member
  cases isField with
  | name isName => exact .inl (isName.continues c member)
  | member ownerIsName nameIsName =>
      rcases List.mem_append.mp member with inOwner | inRest
      · exact .inl (ownerIsName.continues c inOwner)
      · rcases List.mem_cons.mp inRest with dot | inName
        · exact .inr dot
        · exact .inl (nameIsName.continues c inName)

theorem IsField.not_mem {field : Text} (isField : IsField field) {c : Char}
    (stops : continuesName c = false) (noDot : c ≠ '.') : c ∉ field := by
  intro member
  rcases isField.continues c member with continues | dot
  · rw [stops] at continues
    exact absurd continues (by decide)
  · exact noDot dot

theorem continuesName_of_isBlank {c : Char} (blank : isBlank c = true) :
    continuesName c = false := by
  have noHyphen : c ≠ '-' := by
    rintro rfl
    exact absurd blank (by decide)
  simp [continuesName, Text.isWordChar_of_isBlank blank, noHyphen]

theorem continuesName_of_isQuote {c : Char} (quote : isQuote c = true) :
    continuesName c = false := by
  rcases Query.eq_or_eq_of_isQuote quote with rfl | rfl
  · decide
  · decide

theorem IsField.isWord {field : Text} (isField : IsField field) : IsWord field where
  ne_nil := isField.ne_nil
  plain := by
    intro c member
    constructor
    · rw [Bool.eq_false_iff]
      intro blank
      refine isField.not_mem (continuesName_of_isBlank blank) ?_ member
      rintro rfl
      exact absurd blank (by decide)
    · rw [Bool.eq_false_iff]
      intro quote
      refine isField.not_mem (continuesName_of_isQuote quote) ?_ member
      rintro rfl
      exact absurd quote (by decide)

end ProxyHistory.Condition
