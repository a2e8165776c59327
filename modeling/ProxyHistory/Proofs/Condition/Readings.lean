import ProxyHistory.Proofs.Condition.Written

/-!
# Readings of a standard condition

A standard condition on a line is a field, blanks, an operator, blanks and a value, where the
operator can be told from what stands around it. What is read is exactly what can be written so, and
it can be written so in one way only.
-/

namespace ProxyHistory.Condition

open Text (Blank sameIgnoringCase)
open Query (isQuote)

/-- The value stands between quotes. -/
def WrittenValue.IsQuoted : WrittenValue → Prop
  | quoted _ _ => True
  | bare _ => False

/-- The value can stand directly behind a symbol. A bare one does not end with the operator
characters in front of it nor go on with a quote behind them, and starts with no equals sign that
the symbol could take. -/
def WrittenValue.Follows (comparison : Comparison) : WrittenValue → Prop
  | quoted _ _ => True
  | bare value =>
      (∃ c ∈ (value.dropWhile isOperatorChar).head?, isQuote c = false) ∧
        (comparison = .gt ∨ comparison = .lt → value.head? ≠ some '=')

/-- An operator as it is written, with the blanks before and after it and the value behind them. -/
inductive IsOperatorOf (before operator after : Text) (written : WrittenValue) :
    Comparison → Prop
  /-- The letters of `like`, in any case, are set off on both sides. -/
  | letters (same : sameIgnoringCase operator "like".toList) (spaced : before ≠ [])
      (divided : after ≠ [] ∨ written.IsQuoted) : IsOperatorOf before operator after written .like
  /-- A symbol is set off from the value, or the value can follow it. -/
  | symbol {comparison : Comparison} (isSymbol : comparison ≠ .like)
      (operator_eq : operator = comparison.symbol)
      (divided : after ≠ [] ∨ written.Follows comparison) :
      IsOperatorOf before operator after written comparison

/-- A way to read a text as a standard condition. -/
@[ext]
structure Reading where
  /-- The field as written. -/
  field : Text
  /-- The blanks in front of the operator. -/
  before : Text
  /-- The operator as written. -/
  operator : Text
  /-- The blanks behind the operator. -/
  after : Text
  /-- The value as written. -/
  written : WrittenValue
  /-- What the operator stands for. -/
  comparison : Comparison
  isField : IsField field
  before_blank : Blank before
  after_blank : Blank after
  isValid : written.IsValid
  isOperator : IsOperatorOf before operator after written comparison

namespace Reading

/-- The text that is read. -/
def text (reading : Reading) : Text :=
  reading.field ++ (reading.before ++
    (reading.operator ++ (reading.after ++ reading.written.text)))

/-- The parts that the text is split into. -/
def parts (reading : Reading) : Parts :=
  ⟨reading.field, reading.operator, reading.after ++ reading.written.text⟩

end Reading

/-! ## From readings to conditions -/

theorem letters_of_same {operator : Text} (same : sameIgnoringCase operator "like".toList) :
    (∀ c ∈ operator, c.isAlpha) ∧ Text.lower operator = "like".toList := by
  have letters : ∀ c ∈ operator, c.isAlpha :=
    Text.forall_mem_of_same Text.isAlpha_toLower same (by decide)
  refine ⟨letters, ?_⟩
  rw [Text.lower_of_isAlpha letters, Text.sameIgnoringCase_iff.mp same]
  rfl

theorem IsOperatorOf.ofSymbol?_eq {before operator after : Text} {written : WrittenValue}
    {comparison : Comparison} (isOperator : IsOperatorOf before operator after written comparison) :
    Comparison.ofSymbol? (Text.lower operator) = some comparison := by
  cases isOperator with
  | letters same spaced divided =>
      rw [(letters_of_same same).2]
      rfl
  | symbol isSymbol operator_eq divided => rw [operator_eq, ofSymbol?_lower]

/-- Every operator but `like` is one of the glued operators, and an angle is `>` or `<`. -/
theorem symbol_mem_gluedOperators {comparison : Comparison} (isSymbol : comparison ≠ .like) :
    comparison.symbol ∈ gluedOperators ∧
      (comparison.symbol = ">".toList ∨ comparison.symbol = "<".toList →
        comparison = .gt ∨ comparison = .lt) := by
  cases comparison with
  | like => exact absurd rfl isSymbol
  | eq | ne | gt | lt => decide

theorem isSetOff_written {after : Text} (blank : Blank after) {written : WrittenValue}
    (isValid : written.IsValid) (oneLine : '\n' ∉ after ++ written.text)
    (divided : after ≠ [] ∨ written.IsQuoted) : isSetOff (after ++ written.text) := by
  cases after with
  | cons first rest =>
      rw [List.cons_append, List.mem_cons, not_or] at oneLine
      exact isSetOff_cons.mpr ⟨.inl (Text.Blank.of_mem blank).1, oneLine.2⟩
  | nil =>
      cases written with
      | quoted quote value =>
          rw [List.nil_append, WrittenValue.text, quoted, List.mem_cons, not_or] at oneLine
          exact isSetOff_cons.mpr ⟨.inr isValid.1, oneLine.2⟩
      | bare value => exact (divided.resolve_left (absurd rfl)).elim

theorem divides_bare {comparison : Comparison} (isSymbol : comparison ≠ .like) (before : Text)
    {value : Text} (isBare : IsBare value) (follows : (WrittenValue.bare value).Follows comparison)
    (oneLine : '\n' ∉ value) : Divides before comparison.symbol value := by
  obtain ⟨⟨c, head, noQuote⟩, noEquals⟩ := follows
  obtain ⟨known, angle⟩ := symbol_mem_gluedOperators isSymbol
  have member : c ∈ value :=
    (List.dropWhile_suffix isOperatorChar).mem (List.mem_of_mem_head? head)
  exact .glued (isLongest_iff.mpr ⟨known, fun isAngle => noEquals (angle isAngle)⟩)
    ⟨c, head, isBare.unbroken c member, noQuote⟩ oneLine

theorem IsOperatorOf.divides {before operator after : Text} {written : WrittenValue}
    {comparison : Comparison} (isOperator : IsOperatorOf before operator after written comparison)
    (blank : Blank after) (isValid : written.IsValid) (oneLine : '\n' ∉ after ++ written.text) :
    Divides before operator (after ++ written.text) := by
  have setOff := isSetOff_written blank isValid oneLine
  cases isOperator with
  | letters same spaced divided =>
      refine .word spaced ?_ (letters_of_same same).1 (setOff divided)
      rintro rfl
      exact absurd same (by decide)
  | symbol isSymbol operator_eq divided =>
      subst operator_eq
      obtain ⟨ne_nil, symbolic⟩ := symbolic_of_mem (symbol_mem_gluedOperators isSymbol).1
      rcases divided with spaced | follows
      · exact .symbol ne_nil symbolic (.inr (setOff (.inl spaced)))
      · cases written with
        | quoted quote value => exact .symbol ne_nil symbolic (.inr (setOff (.inr trivial)))
        | bare value =>
            cases after with
            | cons first rest =>
                exact .symbol ne_nil symbolic (.inr (setOff (.inl (List.cons_ne_nil first rest))))
            | nil => exact divides_bare isSymbol before isValid follows oneLine

namespace Reading

variable (reading : Reading) (oneLine : '\n' ∉ reading.text)

include oneLine

theorem standardParts?_text : standardParts? reading.text = some reading.parts := by
  have behind : '\n' ∉ reading.after ++ reading.written.text := by
    intro member
    exact oneLine (by simp [text, List.mem_append.mp member])
  exact standardParts?_eq_some_iff.mpr ⟨reading.before, reading.before_blank, reading.isField,
    reading.isOperator.divides reading.after_blank reading.isValid behind, rfl⟩

theorem parse_eq {fragment : Text} (text_eq : reading.text = Text.trim fragment) :
    parse fragment = (readOperand (Text.lower reading.field) reading.written.value).map
      fun operand => some (.standard (Text.lower reading.field) reading.comparison operand) := by
  have split := reading.standardParts?_text oneLine
  rw [text_eq] at split
  have remainder : Text.trim (reading.after ++ reading.written.text) = reading.written.text :=
    Text.trim_behind reading.after_blank (WrittenValue.trimmed_text reading.isValid)
  simp only [parse_of_standardParts? split, ofStandardParts, parts, reading.isOperator.ofSymbol?_eq,
    remainder, WrittenValue.readValue?_text reading.isValid]

end Reading

/-! ## From conditions to readings -/

theorem lower_of_symbolic {operator : Text} (symbolic : ∀ c ∈ operator, isOperatorChar c) :
    Text.lower operator = operator := by
  have plain : ∀ c ∈ operator, c.toNat < 0x80 ∧ c.toLower = c := fun c member =>
    of_isOperatorChar (fun c => c.toNat < 0x80 ∧ c.toLower = c) (by decide) (symbolic c member)
  rw [Text.lower_of_ascii fun c member => (plain c member).1]
  calc
    Text.asciiLower operator = operator.map id :=
      List.map_congr_left fun c member => (plain c member).2
    _ = operator := List.map_id operator

/-- An operator of operator characters is written as the symbol that it is. -/
theorem symbol_of_symbolic {operator : Text} (symbolic : ∀ c ∈ operator, isOperatorChar c)
    {comparison : Comparison}
    (found : Comparison.ofSymbol? (Text.lower operator) = some comparison) :
    comparison ≠ .like ∧ operator = comparison.symbol := by
  rw [lower_of_symbolic symbolic] at found
  have symbol_eq := of_ofSymbol? found
  refine ⟨?_, symbol_eq.symm⟩
  rintro rfl
  exact absurd (symbolic 'l' (symbol_eq ▸ List.mem_cons_self)) (by decide)

theorem same_of_letters {operator : Text} (letters : ∀ c ∈ operator, c.isAlpha)
    {comparison : Comparison}
    (found : Comparison.ofSymbol? (Text.lower operator) = some comparison) :
    comparison = .like ∧ sameIgnoringCase operator "like".toList := by
  have symbol_eq := of_ofSymbol? found
  rw [Text.lower_of_isAlpha letters] at symbol_eq
  have lowered : Text.asciiLower comparison.symbol = comparison.symbol := by
    cases comparison <;> rfl
  have same : sameIgnoringCase comparison.symbol operator :=
    Text.sameIgnoringCase_iff.mpr (lowered.trans symbol_eq)
  have symbolLetters := Text.forall_mem_of_same Text.isAlpha_toLower same letters
  cases comparison with
  | like => exact ⟨rfl, Text.sameIgnoringCase_iff.mpr symbol_eq.symm⟩
  | eq | ne | gt | lt => exact absurd symbolLetters (by decide)

/-- A value that is set off with no blanks in front of it stands in quotes. -/
theorem isQuoted_of_isSetOff {written : WrittenValue} (isValid : written.IsValid)
    (setOff : isSetOff written.text) : written.IsQuoted := by
  cases written with
  | quoted quote value => trivial
  | bare value =>
      obtain ⟨c, rest, rfl⟩ := List.exists_cons_of_ne_nil isValid.ne_nil
      have noMark := isSetOff_cons.mp setOff
      rw [isValid.unbroken c List.mem_cons_self, isValid.unquoted c rfl] at noMark
      exact absurd noMark.1 (by decide)

theorem WrittenValue.IsQuoted.follows {written : WrittenValue} (isQuoted : written.IsQuoted)
    (comparison : Comparison) : written.Follows comparison := by
  cases written with
  | quoted quote value => trivial
  | bare value => exact isQuoted.elim

/-- What divides a text in front of a value is an operator if it stands for a comparison. -/
theorem isOperatorOf_of_divides {before operator after : Text} {written : WrittenValue}
    (isValid : written.IsValid) (divides : Divides before operator (after ++ written.text))
    {comparison : Comparison}
    (found : Comparison.ofSymbol? (Text.lower operator) = some comparison) :
    IsOperatorOf before operator after written comparison := by
  cases divides with
  | symbol ne_nil symbolic ends =>
      obtain ⟨isSymbol, operator_eq⟩ := symbol_of_symbolic symbolic found
      refine .symbol isSymbol operator_eq (or_iff_not_imp_left.mpr fun noBlanks => ?_)
      rw [not_not.mp noBlanks, List.nil_append] at ends
      have setOff := ends.resolve_left (WrittenValue.text_ne_nil isValid)
      exact (isQuoted_of_isSetOff isValid setOff).follows comparison
  | glued longest attached oneLine =>
      obtain ⟨isSymbol, operator_eq⟩ := symbol_of_symbolic longest.symbolic.2 found
      refine .symbol isSymbol operator_eq (or_iff_not_imp_left.mpr fun noBlanks => ?_)
      rw [not_not.mp noBlanks, List.nil_append] at longest attached
      cases written with
      | quoted quote value => trivial
      | bare value =>
          obtain ⟨c, head, -, noQuote⟩ := attached
          refine ⟨⟨c, head, noQuote⟩, fun angle => (isLongest_iff.mp longest).2 ?_⟩
          rw [operator_eq]
          exact angle.imp (congrArg Comparison.symbol) (congrArg Comparison.symbol)
  | word spaced ne_nil letters setOff =>
      obtain ⟨rfl, same⟩ := same_of_letters letters found
      refine .letters same spaced (or_iff_not_imp_left.mpr fun noBlanks => ?_)
      rw [not_not.mp noBlanks, List.nil_append] at setOff
      exact isQuoted_of_isSetOff isValid setOff

theorem ofLengthParts_ne_standard (parts : Parts) (key : Text) (comparison : Comparison)
    (operand : Operand) : ofLengthParts parts ≠ .ok (some (.standard key comparison operand)) := by
  unfold ofLengthParts
  split
  · exact nofun
  · dsimp only
    split <;> exact nofun

theorem exists_reading {fragment key : Text} {comparison : Comparison} {operand : Operand}
    (read : parse fragment = .ok (some (.standard key comparison operand))) :
    ∃ reading : Reading, reading.text = Text.trim fragment ∧ Text.lower reading.field = key ∧
      reading.comparison = comparison ∧ readOperand key reading.written.value = .ok operand := by
  rw [parse] at read
  split at read
  · exact absurd read (ofLengthParts_ne_standard _ key comparison operand)
  · split at read
    · rename_i parts split_eq
      obtain ⟨comparison, value, operand, found, valueRead, operandRead, ⟨⟩⟩ :=
        exists_of_ofStandardParts read
      obtain ⟨before, before_blank, isField, divides, text_eq⟩ :=
        standardParts?_eq_some_iff.mp split_eq
      have suffix : parts.remainder <:+ Text.trim fragment :=
        ⟨parts.field ++ (before ++ parts.operator), by simpa using text_eq⟩
      obtain ⟨after, after_blank, remainder_eq⟩ :=
        Text.exists_blanks_of_suffix (Text.getLast?_trim fragment) suffix
      obtain ⟨written, isValid, written_eq, rfl⟩ := exists_written_of_readValue? valueRead
      rw [← written_eq] at remainder_eq
      rw [remainder_eq] at divides text_eq
      exact ⟨⟨parts.field, before, parts.operator, after, written, comparison, isField,
        before_blank, after_blank, isValid, isOperatorOf_of_divides isValid divides found⟩,
        text_eq, rfl, rfl, operandRead⟩
    · cases read

/-! ## One reading at most -/

/-- A value is written in one way only. -/
theorem WrittenValue.eq_of_text_eq {first second : WrittenValue} (firstValid : first.IsValid)
    (secondValid : second.IsValid) (same : first.text = second.text) : first = second := by
  cases first with
  | quoted quote value =>
      cases second with
      | quoted otherQuote otherValue =>
          obtain ⟨rfl, closed⟩ := List.cons.inj same
          rw [List.append_cancel_right closed]
      | bare other =>
          have noQuote := secondValid.unquoted quote (by rw [← show _ = other from same]; rfl)
          rw [firstValid.1] at noQuote
          contradiction
  | bare value =>
      cases second with
      | quoted quote other =>
          have noQuote := firstValid.unquoted quote (by rw [show value = _ from same]; rfl)
          rw [secondValid.1] at noQuote
          contradiction
      | bare other => exact congrArg bare same

/-- A text in one line has one reading at most: the readers find its parts. -/
theorem Reading.eq_of_text_eq {first second : Reading} (oneLine : '\n' ∉ first.text)
    (same : first.text = second.text) : first = second := by
  have firstSplit := first.standardParts?_text oneLine
  have secondSplit := second.standardParts?_text (same ▸ oneLine)
  rw [same, secondSplit] at firstSplit
  obtain ⟨field_eq, operator_eq, remainder_eq⟩ := Parts.mk.inj (Option.some.inj firstSplit)
  have text_eq : second.written.text = first.written.text := by
    have trimmed := congrArg Text.trim remainder_eq
    rwa [Text.trim_behind second.after_blank (WrittenValue.trimmed_text second.isValid),
      Text.trim_behind first.after_blank (WrittenValue.trimmed_text first.isValid)] at trimmed
  have written_eq := WrittenValue.eq_of_text_eq second.isValid first.isValid text_eq
  have after_eq : second.after = first.after := by
    rw [text_eq] at remainder_eq
    exact List.append_cancel_right remainder_eq
  have before_eq : second.before = first.before := by
    rw [text, text, field_eq, operator_eq, remainder_eq] at same
    exact List.append_cancel_right (List.append_cancel_left same.symm)
  have comparison_eq : second.comparison = first.comparison := by
    have found := second.isOperator.ofSymbol?_eq
    rw [operator_eq, first.isOperator.ofSymbol?_eq] at found
    exact (Option.some.inj found).symm
  exact (Reading.ext field_eq before_eq operator_eq after_eq written_eq comparison_eq).symm

/-- A fragment in one line is read as a condition on a text exactly if it has a reading, and it has
one reading at most. -/
theorem parse_eq_standard_iff_reading {fragment : Text} (oneLine : '\n' ∉ fragment) :
    (∀ key ∉ contentTypeKeys, ∀ comparison value,
      parse fragment = .ok (some (.standard key comparison (.text value))) ↔
        ∃ reading : Reading, reading.text = Text.trim fragment ∧ Text.lower reading.field = key ∧
          reading.comparison = comparison ∧ reading.written.value = value) ∧
      ∀ first second : Reading, first.text = Text.trim fragment →
        second.text = Text.trim fragment → first = second := by
  have trim_oneLine : '\n' ∉ Text.trim fragment := by
    obtain ⟨before, after, -, -, split⟩ := Text.exists_blanks_trim fragment
    intro member
    exact oneLine (by rw [split]; simp [member])
  refine ⟨fun key textKey comparison value => ⟨fun read => ?_, ?_⟩, ?_⟩
  · obtain ⟨reading, text_eq, key_eq, comparison_eq, operandRead⟩ := exists_reading read
    rw [readOperand, if_neg textKey] at operandRead
    cases operandRead
    exact ⟨reading, text_eq, key_eq, comparison_eq, rfl⟩
  · rintro ⟨reading, text_eq, rfl, rfl, rfl⟩
    rw [reading.parse_eq (text_eq ▸ trim_oneLine) text_eq, readOperand, if_neg textKey]
    rfl
  · intro first second first_eq second_eq
    exact Reading.eq_of_text_eq (first_eq ▸ trim_oneLine) (first_eq.trans second_eq.symm)

/-- An operator character can start a bare value that stands behind another one. -/
theorem existsUnique_reading_script :
    ∃! reading : Reading, reading.text = Text.trim " Req.Body=<script>".toList ∧
      reading.comparison = .eq ∧ reading.written.value = "<script>".toList := by
  obtain ⟨readings, unique⟩ :=
    parse_eq_standard_iff_reading (show '\n' ∉ " Req.Body=<script>".toList by decide)
  obtain ⟨reading, text_eq, -, comparison_eq, value_eq⟩ :=
    (readings "req.body".toList (by decide) .eq "<script>".toList).mp (by decide)
  exact ⟨reading, ⟨text_eq, comparison_eq, value_eq⟩,
    fun other otherRead => unique other reading otherRead.1 text_eq⟩

end ProxyHistory.Condition
