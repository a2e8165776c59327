import ProxyHistory.Proofs.Condition.Readings

/-!
# Spaces around an operator

With a space on each side, a run of operator characters is read as one operator. Between a field and
a bare value, only the longest known operator in front of the run is, and the rest of the run starts
the value, which is how a value that starts with a tag can follow an equals sign. So the spaces
matter exactly for runs that go on behind a known operator.
-/

namespace ProxyHistory.Condition

open Text (Blank Trimmed)
open Query (isQuote)

/-- A condition with a space on each side of its operator. -/
def spaceOut (field operator value : Text) : Text :=
  field ++ ' ' :: (operator ++ ' ' :: value)

/-- A condition with nothing around its operator. -/
def attach (field operator value : Text) : Text :=
  field ++ (operator ++ value)

/-- What an operator between a field and a value is read as. -/
def ofOperator (field operator value : Text) : Except QueryError (Option Condition) :=
  (Comparison.ofSymbol? operator).elim (.error (.unsupportedOperator operator .standard))
    fun comparison => (readOperand (Text.lower field) value).map
      fun operand => some (.standard (Text.lower field) comparison operand)

theorem IsBare.oneLine {value : Text} (isBare : IsBare value) : '\n' ∉ value := fun member =>
  absurd (isBare.unbroken '\n' member) (by decide)

theorem IsBare.append {value : Text} (isBare : IsBare value) {rest : Text}
    (symbolic : ∀ c ∈ rest, isOperatorChar c) : IsBare (rest ++ value) where
  ne_nil := List.append_ne_nil_of_right_ne_nil rest isBare.ne_nil
  unbroken := by
    intro c member
    rcases List.mem_append.mp member with inRest | inValue
    · exact isBlank_of_isOperatorChar (symbolic c inRest)
    · exact isBare.unbroken c inValue
  unquoted := by
    cases rest with
    | nil => exact isBare.unquoted
    | cons first rest =>
        rintro _ ⟨⟩
        exact of_isOperatorChar (isQuote · = false) (by decide) (symbolic first List.mem_cons_self)

section Spacing

variable {field : Text} (isField : IsField field) {value : Text} (isBare : IsBare value)

include isField isBare

theorem trimmed_between (middle : Text) : Trimmed (field ++ (middle ++ value)) :=
  (Query.trimmed_of_isWord isField.isWord).append_append isBare.trimmed isField.ne_nil
    isBare.ne_nil middle

theorem parse_eq_ofOperator {before operator after : Text} (before_blank : Blank before)
    (after_blank : Blank after) (symbolic : ∀ c ∈ operator, isOperatorChar c)
    (divides : Divides before operator (after ++ value)) :
    parse (field ++ (before ++ (operator ++ (after ++ value)))) =
      ofOperator field operator value := by
  have trimmed := trimmed_between isField isBare (before ++ (operator ++ after))
  simp only [List.append_assoc] at trimmed
  have split : standardParts? (field ++ (before ++ (operator ++ (after ++ value)))) =
      some ⟨field, operator, after ++ value⟩ :=
    standardParts?_eq_some_iff.mpr ⟨before, before_blank, isField, divides, rfl⟩
  rw [← Text.trim_of_trimmed trimmed] at split
  have remainder : Text.trim (after ++ value) = value := Text.trim_behind after_blank isBare.trimmed
  rw [parse_of_standardParts? split, ofOperator, ofStandardParts]
  simp only [lower_of_symbolic symbolic, remainder, isBare.readValue?_eq]
  cases Comparison.ofSymbol? operator <;> rfl

/-- Between spaces, operator characters are one operator. -/
theorem parse_spaceOut {operator : Text} (ne_nil : operator ≠ [])
    (symbolic : ∀ c ∈ operator, isOperatorChar c) :
    parse (spaceOut field operator value) = ofOperator field operator value := by
  have setOff : isSetOff ([' '] ++ value) := isSetOff_cons.mpr ⟨.inl (by decide), isBare.oneLine⟩
  have text_eq : spaceOut field operator value =
      field ++ ([' '] ++ (operator ++ ([' '] ++ value))) := rfl
  rw [text_eq]
  exact parse_eq_ofOperator isField isBare Text.blank_space Text.blank_space symbolic
    (.symbol ne_nil symbolic (.inr setOff))

variable (starts : Stops isOperatorChar value)

include starts

/-- Without spaces, only the longest known operator is one, and the value starts behind it. -/
theorem parse_attach {operator rest : Text} (longest : IsLongest operator rest)
    (symbolic : ∀ c ∈ rest, isOperatorChar c) :
    parse (attach field (operator ++ rest) value) = ofOperator field operator (rest ++ value) := by
  have isBare' := isBare.append symbolic
  have longest' : IsLongest operator (rest ++ value) := by
    obtain ⟨known, noEquals⟩ := isLongest_iff.mp longest
    refine isLongest_iff.mpr ⟨known, fun angle head => ?_⟩
    cases rest with
    | nil => exact absurd (starts '=' head) (by decide)
    | cons first rest => exact noEquals angle head
  obtain ⟨c, others, rfl⟩ := List.exists_cons_of_ne_nil isBare.ne_nil
  have attached : IsAttached (rest ++ c :: others) := by
    rw [IsAttached, dropWhile_run symbolic starts]
    exact ⟨c, rfl, isBare.unbroken c List.mem_cons_self, isBare.unquoted c rfl⟩
  have read := parse_eq_ofOperator isField isBare' Blank.nil Blank.nil longest.symbolic.2
    (.glued longest' attached isBare'.oneLine)
  rwa [List.nil_append, List.nil_append, ← List.append_assoc operator] at read

end Spacing

/-! ## Where the spaces matter -/

theorem ofSymbol?_eq_none {run : Text} (symbolic : ∀ c ∈ run, isOperatorChar c)
    (unknown : run ∉ gluedOperators) : Comparison.ofSymbol? run = none := by
  rw [Option.eq_none_iff_forall_ne_some]
  intro comparison found
  rw [← lower_of_symbolic symbolic] at found
  obtain ⟨isSymbol, rfl⟩ := symbol_of_symbolic symbolic found
  exact unknown (symbol_mem_gluedOperators isSymbol).1

theorem eq_of_unsupported {field operator value other : Text}
    (refused : ofOperator field operator value = .error (.unsupportedOperator other .standard)) :
    operator = other := by
  unfold ofOperator at refused
  cases found : Comparison.ofSymbol? operator with
  | none =>
      rw [found] at refused
      cases refused
      rfl
  | some comparison =>
      rw [found] at refused
      unfold readOperand readContentType at refused
      dsimp only [Option.elim_some] at refused
      split at refused
      · split at refused
        · cases refused
        · split at refused <;> cases refused
      · cases refused

/-- Nothing stands behind the longest operator of a run that is a glued operator. -/
theorem IsLongest.rest_eq_nil {operator rest : Text} (longest : IsLongest operator rest)
    (known : operator ++ rest ∈ gluedOperators) : rest = [] := by
  have bound := longest.2 (operator ++ rest) known List.prefix_rfl
  rw [List.length_append] at bound
  exact List.eq_nil_of_length_eq_zero (by omega)

/-- A run of operator characters with a space on each side is read as one operator. Without the
spaces, it is read as the longest known operator in front of it, with the rest in the value. So the
spaces make no difference exactly if the run is a known operator. -/
theorem parse_operator_spacing {field run value : Text} (isField : IsField field)
    (ne_nil : run ≠ []) (symbolic : ∀ c ∈ run, isOperatorChar c) (isBare : IsBare value)
    (starts : Stops isOperatorChar value) :
    parse (spaceOut field run value) = ofOperator field run value ∧
      ∀ operator rest, run = operator ++ rest → IsLongest operator rest →
        parse (attach field run value) = parse (spaceOut field operator (rest ++ value)) ∧
          (parse (attach field run value) = parse (spaceOut field run value) ↔
            run ∈ gluedOperators) := by
  have spaced := parse_spaceOut isField isBare ne_nil symbolic
  refine ⟨spaced, ?_⟩
  rintro operator rest rfl longest
  obtain ⟨operator_ne_nil, operatorSymbolic⟩ := longest.symbolic
  have restSymbolic : ∀ c ∈ rest, isOperatorChar c := fun c member =>
    symbolic c (List.mem_append_right operator member)
  have attached := parse_attach isField isBare starts longest restSymbolic
  refine ⟨?_, ?_, fun known => ?_⟩
  · rw [attached, parse_spaceOut isField (isBare.append restSymbolic) operator_ne_nil
      operatorSymbolic]
  · -- An unknown run is refused as a whole between spaces, and not without them.
    intro same
    by_contra unknown
    have refused : ofOperator field (operator ++ rest) value =
        .error (.unsupportedOperator (operator ++ rest) .standard) := by
      rw [ofOperator, ofSymbol?_eq_none symbolic unknown, Option.elim_none]
    rw [attached, spaced, refused] at same
    have whole := eq_of_unsupported same
    rw [← whole] at unknown
    exact unknown longest.1
  · rw [attached, spaced, longest.rest_eq_nil known, List.append_nil, List.nil_append]

/-- A tag can follow an equals sign, but not one that stands by itself. -/
theorem parse_operator_spacing_script :
    parse (attach "req.body".toList "=<".toList "script>".toList) =
        .ok (some (.standard "req.body".toList .eq (.text "<script>".toList))) ∧
      parse (attach "req.body".toList "=<".toList "script>".toList) ≠
        parse (spaceOut "req.body".toList "=<".toList "script>".toList) := by
  have isField : IsField "req.body".toList :=
    .member ⟨'r', "eq".toList, rfl, by decide, by decide⟩
      ⟨'b', "ody".toList, rfl, by decide, by decide⟩
  obtain ⟨-, attached⟩ := parse_operator_spacing isField (show "=<".toList ≠ [] by decide)
    (by decide) (show IsBare "script>".toList from ⟨by decide, by decide, by decide⟩) (by decide)
  obtain ⟨read, agree⟩ := attached "=".toList "<".toList rfl ⟨by decide, by decide⟩
  refine ⟨?_, ?_⟩
  · rw [read]
    decide
  · rw [ne_eq, agree]
    decide

/-- Without spaces, an unknown operator is no error if it starts with a known one. -/
theorem attach_ne_spaceOut :
    IsField "body".toList ∧ (∀ c ∈ "=<".toList, isOperatorChar c) ∧ IsBare "a>".toList ∧
      Stops isOperatorChar "a>".toList ∧
      parse (attach "body".toList "=<".toList "a>".toList) ≠
        parse (spaceOut "body".toList "=<".toList "a>".toList) :=
  ⟨.name ⟨'b', "ody".toList, rfl, by decide, by decide⟩, by decide,
    ⟨by decide, by decide, by decide⟩, by decide, by decide⟩

end ProxyHistory.Condition
