import ProxyHistory.Proofs.Condition.Scanned
import ProxyHistory.Proofs.Text.Search

/-!
# The operator of a condition

What the readers of a condition leave over is the end of the text. A value that is read as such
stands in quotes or holds no blank, so if a condition ends with a blank and digits, then only blanks
and digits stand behind its operator.
-/

namespace ProxyHistory.Condition

open Text (isBlank Blank isDecimalDigit)
open Query (isQuote)

/-- The operator of a condition as written. -/
structure IsOperator (operator : Text) : Prop where
  ne_nil : operator ≠ []
  marks : ∀ c ∈ operator, isOperatorChar c ∨ c.isAlpha
  known : (∃ comparison : LengthComparison, comparison.symbol = operator) ∨
    ∃ comparison : Comparison, comparison.symbol = Text.lower operator

/-- The characters that can follow the operator of a condition that ends with a number. -/
def isFiller (c : Char) : Bool :=
  isBlank c || isDecimalDigit c

/-! ## What the readers leave over -/

theorem suffix_of_takeRun? {test : Char → Bool} {text run rest : Text}
    (taken : takeRun? test text = some (run, rest)) : rest <:+ text :=
  ⟨run, (takeRun?_eq_some_iff.mp taken).2.2.2⟩

theorem of_standardParts? {text : Text} {parts : Parts} (read : standardParts? text = some parts) :
    parts.operator ++ parts.remainder <:+ text ∧
      ∀ c ∈ parts.operator, isOperatorChar c ∨ c.isAlpha := by
  obtain ⟨before, -, -, divides, split⟩ := standardParts?_eq_some_iff.mp read
  refine ⟨⟨parts.field ++ before, by rw [List.append_assoc, split]⟩, fun c member => ?_⟩
  rcases divides.marks.2 with symbolic | ⟨-, letters⟩
  · exact .inl (symbolic c member)
  · exact .inr (letters c member)

theorem of_lengthParts? {text : Text} {parts : Parts} (read : lengthParts? text = some parts) :
    ∃ blanks, Blank blanks ∧ parts.operator ++ (blanks ++ parts.remainder) <:+ text := by
  unfold lengthParts? at read
  split at read
  · split at read
    · cases read
    · rename_i field after taken
      have after_suffix : after <:+ text :=
        ((suffix_of_takeRun? taken).trans (List.dropWhile_suffix isBlank)).trans
          (List.drop_suffix lengthOpening.length text)
      split at read
      · rename_i rest closing
        have rest_suffix : Text.trimStart rest <:+ text := by
          refine ((List.dropWhile_suffix isBlank).trans (List.suffix_cons ')' rest)).trans ?_
          rw [← closing]
          exact (List.dropWhile_suffix isBlank).trans after_suffix
        dsimp only at read
        split at read
        · cases read
        · rename_i operator behind run
          split at read
          · cases read
          · cases read
            have split_eq : operator ++ behind = Text.trimStart rest := by
              rw [Option.or_eq_some_iff] at run
              rcases run with symbolic | ⟨-, letters⟩
              · exact (takeRun?_eq_some_iff.mp symbolic).2.2.2
              · exact (takeRun?_eq_some_iff.mp letters).2.2.2
            refine ⟨behind.takeWhile isBlank, fun c member => List.mem_takeWhile_imp member, ?_⟩
            have behind_eq : behind.takeWhile isBlank ++ Text.trimStart behind = behind :=
              List.takeWhile_append_dropWhile
            rw [behind_eq, split_eq]
            exact rest_suffix
      · cases read
  · cases read

/-! ## What stands behind the operator -/

theorem isFiller_of_blank {blanks : Text} (blank : Blank blanks) : ∀ c ∈ blanks, isFiller c := by
  intro c member
  rw [isFiller, blank c member, Bool.true_or]

theorem isFiller_of_digits {digits : Text} (isDigits : ∀ c ∈ digits, isDecimalDigit c) :
    ∀ c ∈ digits, isFiller c := by
  intro c member
  rw [isFiller, isDigits c member, Bool.or_true]

theorem IsOperator.isFiller_eq_false {operator : Text} (isOperator : IsOperator operator) :
    ∀ c ∈ operator, isFiller c = false := by
  intro c member
  rw [isFiller, Bool.or_eq_false_iff]
  rcases isOperator.marks c member with symbolic | letter
  · refine ⟨isBlank_of_isOperatorChar symbolic, ?_⟩
    simp only [isOperatorChar, Bool.or_eq_true, beq_iff_eq, or_assoc] at symbolic
    rcases symbolic with rfl | rfl | rfl | rfl | rfl
    all_goals rfl
  · rw [Bool.eq_false_iff (b := isDecimalDigit c)]
    exact ⟨isBlank_of_isAlpha letter, fun digit => not_isAlpha_of_isDecimalDigit digit letter⟩

theorem of_lengthOfSymbol? {operator : Text} {comparison : LengthComparison}
    (found : LengthComparison.ofSymbol? operator = some comparison) :
    comparison.symbol = operator :=
  beq_iff_eq.mp (List.find?_some found :)

theorem of_ofLengthParts {parts : Parts} {condition : Condition}
    (read : ofLengthParts parts = .ok (some condition)) :
    IsOperator parts.operator ∧ ∀ c ∈ parts.remainder, isFiller c := by
  unfold ofLengthParts at read
  split at read
  · cases read
  · rename_i comparison found
    have symbol_eq := of_lengthOfSymbol? found
    obtain ⟨symbol_ne_nil, symbolic⟩ := lengthSymbol_plain comparison
    rw [symbol_eq] at symbol_ne_nil symbolic
    refine ⟨⟨symbol_ne_nil, fun c member => .inl (symbolic c member), .inl ⟨comparison, symbol_eq⟩⟩,
      ?_⟩
    dsimp only at read
    split at read
    · rename_i numeric
      rw [Bool.and_eq_true, List.all_eq_true] at numeric
      obtain ⟨before, after, before_blank, after_blank, split_eq⟩ :=
        Text.exists_blanks_trim parts.remainder
      intro c member
      rw [split_eq, List.append_assoc, List.mem_append, List.mem_append] at member
      rcases member with inBefore | inLiteral | inAfter
      · exact isFiller_of_blank before_blank c inBefore
      · exact isFiller_of_digits numeric.2 c inLiteral
      · exact isFiller_of_blank after_blank c inAfter
    · cases read

section Number

variable {text front digits : Text} (ends : text = front ++ ' ' :: digits) (ne_nil : digits ≠ [])
  (isDigits : ∀ c ∈ digits, isDecimalDigit c)

include ends ne_nil isDigits

/-- In a text that ends with a blank and a number, a value at the end is a part of the number. -/
theorem isFiller_of_readValue? {remainder value : Text} (suffix : remainder <:+ text)
    (read : readValue? (Text.trim remainder) = some value) : ∀ c ∈ remainder, isFiller c := by
  have last_digit : ∀ c ∈ text.getLast?, isBlank c = false ∧ isQuote c = false := by
    intro c last
    rw [ends, List.getLast?_append_cons, List.getLast?_cons_of_ne_nil ne_nil] at last
    exact (isWord_literal ne_nil isDigits).plain c (List.mem_of_getLast? last)
  obtain ⟨before, before_blank, split_eq⟩ :=
    Text.exists_blanks_of_suffix (fun c last => (last_digit c last).1) suffix
  obtain ⟨written, isValid, text_eq, -⟩ := exists_written_of_readValue? read
  rw [← text_eq] at split_eq
  have value_suffix : written.text <:+ text :=
    (List.suffix_append before written.text).trans (split_eq ▸ suffix)
  have value_filler : ∀ c ∈ written.text, isFiller c := by
    cases written with
    | quoted quote value =>
        obtain ⟨front, rfl⟩ := value_suffix
        have last : (front ++ quoted quote value).getLast? = some quote := by
          rw [quoted, ← List.cons_append, ← List.append_assoc, List.getLast?_concat]
        have noQuote := (last_digit quote last).2
        rw [isValid.1] at noQuote
        contradiction
    | bare value =>
        have number_suffix : ' ' :: digits <:+ text := ⟨front, ends.symm⟩
        rcases List.suffix_or_suffix_of_suffix value_suffix number_suffix with inner | outer
        · intro c member
          rcases List.mem_cons.mp (inner.mem member) with rfl | digit
          · rfl
          · exact isFiller_of_digits isDigits c digit
        · have space := isValid.unbroken ' ' (outer.mem List.mem_cons_self)
          contradiction
  intro c member
  rw [split_eq, List.mem_append] at member
  exact member.elim (isFiller_of_blank before_blank c) (value_filler c)

/-- Only blanks and digits stand behind the operator of a standard condition that ends with a blank
and a number. -/
theorem of_ofStandardParts {parts : Parts} {condition : Condition}
    (split : standardParts? text = some parts)
    (read : ofStandardParts parts = .ok (some condition)) :
    IsOperator parts.operator ∧ ∀ c ∈ parts.remainder, isFiller c := by
  obtain ⟨suffix, marks⟩ := of_standardParts? split
  obtain ⟨comparison, value, operand, found, valueRead, -, -⟩ := exists_of_ofStandardParts read
  have symbol_eq := of_ofSymbol? found
  have operator_ne_nil : parts.operator ≠ [] := by
    intro empty
    rw [empty] at symbol_eq
    exact symbol_ne_nil comparison symbol_eq
  exact ⟨⟨operator_ne_nil, marks, .inr ⟨comparison, symbol_eq⟩⟩,
    isFiller_of_readValue? ends ne_nil isDigits
      ((List.suffix_append parts.operator parts.remainder).trans suffix) valueRead⟩

/-- The operator of a condition that ends with a blank and a number stands in front of them, with
nothing but blanks and digits between. -/
theorem exists_operator_of_parse {fragment : Text} (trim_eq : Text.trim fragment = text)
    {condition : Condition} (read : parse fragment = .ok (some condition)) :
    ∃ operator filler, IsOperator operator ∧ (∀ c ∈ filler, isFiller c) ∧
      operator ++ filler <:+ text := by
  rw [parse, trim_eq] at read
  split at read
  · rename_i parts split_eq
    obtain ⟨blanks, blank, suffix⟩ := of_lengthParts? split_eq
    obtain ⟨isOperator, filler⟩ := of_ofLengthParts read
    refine ⟨parts.operator, blanks ++ parts.remainder, isOperator, ?_, suffix⟩
    intro c member
    exact (List.mem_append.mp member).elim (isFiller_of_blank blank c) (filler c)
  · split at read
    · rename_i parts split_eq
      obtain ⟨isOperator, filler⟩ := of_ofStandardParts ends ne_nil isDigits split_eq read
      exact ⟨parts.operator, parts.remainder, isOperator, filler, (of_standardParts? split_eq).1⟩
    · cases read

end Number

theorem rdropWhile_append {test : Char → Bool} {front back : Text} (holds : ∀ c ∈ back, test c)
    (stops : ∀ c ∈ front.getLast?, test c = false) : (front ++ back).rdropWhile test = front := by
  have reversed : Stops test front.reverse := by
    intro c head
    rw [List.head?_reverse] at head
    exact stops c head
  rw [List.rdropWhile, List.reverse_append,
    dropWhile_run (fun c member => holds c (List.mem_reverse.mp member)) reversed,
    List.reverse_reverse]

/-- No operator holds a capital T: in lower case it would hold a small one. -/
theorem IsOperator.capital_not_mem {operator : Text} (isOperator : IsOperator operator) :
    'T' ∉ operator := by
  intro member
  rcases isOperator.known with ⟨comparison, rfl⟩ | ⟨comparison, symbol_eq⟩
  · cases comparison
    all_goals exact absurd member (by decide)
  · have lowered := Text.mem_lower (show Text.lowerChar 'T' = ['t'] by rfl) (by decide) member
    rw [← symbol_eq] at lowered
    cases comparison
    all_goals exact absurd lowered (by decide)

/-- What ends with a word on a capital T and with a number behind it is no condition. -/
theorem not_parse_of_number {fragment front digits : Text}
    (trim_eq : Text.trim fragment = front ++ 'T' :: ' ' :: digits) (ne_nil : digits ≠ [])
    (isDigits : ∀ c ∈ digits, isDecimalDigit c) (condition : Condition) :
    parse fragment ≠ .ok (some condition) := by
  intro read
  have ends : front ++ 'T' :: ' ' :: digits = (front ++ ['T']) ++ ' ' :: digits := by simp
  obtain ⟨operator, filler, isOperator, isFiller, before, split_eq⟩ :=
    exists_operator_of_parse ends ne_nil isDigits trim_eq read
  have word_end : (front ++ 'T' :: ' ' :: digits).rdropWhile Condition.isFiller = front ++ ['T'] := by
    rw [ends]
    refine rdropWhile_append ?_ ?_
    · exact List.forall_mem_cons.mpr ⟨rfl, isFiller_of_digits isDigits⟩
    · intro c last
      rw [List.getLast?_concat] at last
      cases last
      rfl
  have operator_end : (front ++ 'T' :: ' ' :: digits).rdropWhile Condition.isFiller =
      before ++ operator := by
    rw [← split_eq, ← List.append_assoc]
    refine rdropWhile_append isFiller fun c last => ?_
    rw [List.getLast?_append_of_ne_nil _ isOperator.ne_nil] at last
    exact isOperator.isFiller_eq_false c (List.mem_of_getLast? last)
  have last : operator.getLast? = some 'T' := by
    rw [← List.getLast?_append_of_ne_nil before isOperator.ne_nil, ← operator_end, word_end,
      List.getLast?_concat]
  exact isOperator.capital_not_mem (List.mem_of_getLast? last)

end ProxyHistory.Condition
