import ProxyHistory.Proofs.Condition.Readers
import ProxyHistory.Proofs.Steps
import ProxyHistory.Proofs.Text.Avoids
import ProxyHistory.Proofs.Text.Search

/-!
# Written conditions

The written form of a condition, and what is read from it: the condition itself. A value may hold
anything but a line feed and the quote it stands in, and a content type stands in lower case.
-/

namespace ProxyHistory

open Text (isBlank Trimmed)
open Query (isQuote IsWord)

/-- The written form of an operand. -/
def Operand.written : Operand → Text
  | .text value => value
  | .contentType value => Text.asciiLower value.token

namespace Condition

/-- A value between two quotes. -/
def quoted (quote : Char) (value : Text) : Text :=
  quote :: (value ++ [quote])

/-- The written form of a standard condition, with a space on each side of its operator. -/
def writeStandard (field symbol : Text) (quote : Char) (value : Text) : Text :=
  field ++ ' ' :: (symbol ++ ' ' :: quoted quote value)

/-- The written form of a condition on a length, with a space on each side of its operator. -/
def writeLength (field symbol literal : Text) : Text :=
  lengthOpening ++ (field ++ ')' :: ' ' :: (symbol ++ ' ' :: literal))

/-- The written form of a condition. A value stands between two of the given quotes. -/
def write (quote : Char) : Condition → Text
  | .standard key comparison operand =>
      writeStandard key comparison.symbol quote operand.written
  | .length key comparison literal => writeLength key comparison.symbol literal

/-- An operand can be written between two of the given quotes under the given key. -/
def OperandFits (quote : Char) (key : Text) : Operand → Prop
  | .text value => key ∉ contentTypeKeys ∧ quote ∉ value ∧ '\n' ∉ value
  | .contentType value => key ∈ contentTypeKeys ∧ (value = .json ∨ value = .xml)

/-- A condition has a written form, with its value between two of the given quotes. -/
def IsWritable (quote : Char) : Condition → Prop
  | .standard key _ operand => IsField key ∧ Text.lower key = key ∧ OperandFits quote key operand
  | .length key _ literal =>
      (key ≠ [] ∧ ∀ c ∈ key, isLengthFieldChar c) ∧ Text.lower key = key ∧
        literal ≠ [] ∧ ∀ c ∈ literal, Text.isDecimalDigit c

/-! ## Values -/

theorem trimmed_quoted {quote : Char} (isQuote : isQuote quote) (value : Text) :
    Trimmed (quoted quote value) := by
  have notBlank := Query.not_isBlank_of_isQuote isQuote
  constructor
  · intro c head
    obtain rfl : quote = c := by simpa [quoted] using head
    exact notBlank
  · intro c last
    rw [quoted, ← List.cons_append, List.getLast?_concat] at last
    obtain rfl := Option.some.inj last
    exact notBlank

theorem splitOnce?_quoted {quote : Char} {value : Text} (unclosed : quote ∉ value) :
    Text.splitOnce? (· == quote) (value ++ [quote]) = some (value, []) := by
  have plain : ∀ c ∈ value, (c == quote) = false := by
    intro c member
    rw [beq_eq_false_iff_ne]
    rintro rfl
    exact unclosed member
  exact Text.splitOnce?_append_cons plain (beq_self_eq_true quote) []

theorem readValue?_quoted {quote : Char} (isQuote : isQuote quote) {value : Text}
    (unclosed : quote ∉ value) : readValue? (quoted quote value) = some value := by
  rw [quoted, readValue?, if_pos isQuote, splitOnce?_quoted unclosed]

/-- A text that can stand as a value without quotes. -/
structure IsBare (value : Text) : Prop where
  ne_nil : value ≠ []
  unbroken : ∀ c ∈ value, isBlank c = false
  unquoted : ∀ c ∈ value.head?, isQuote c = false

theorem IsBare.readValue?_eq {value : Text} (isBare : IsBare value) :
    readValue? value = some value := by
  obtain ⟨c, rest, rfl⟩ := List.exists_cons_of_ne_nil isBare.ne_nil
  have noQuote : ¬ isQuote c := by simp [isBare.unquoted c rfl]
  have unbroken : ¬ (c :: rest).any isBlank := by
    rw [List.any_eq_true]
    rintro ⟨d, member, blank⟩
    rw [isBare.unbroken d member] at blank
    contradiction
  rw [readValue?, if_neg noQuote, if_neg unbroken]

theorem IsBare.trimmed {value : Text} (isBare : IsBare value) : Trimmed value :=
  ⟨fun c head => isBare.unbroken c (List.mem_of_mem_head? head),
    fun c last => isBare.unbroken c (List.mem_of_getLast? last)⟩

/-- A value as it is written in a condition. -/
inductive WrittenValue
  /-- It stands between two equal quotes. -/
  | quoted (quote : Char) (value : Text)
  /-- It stands by itself. -/
  | bare (value : Text)

namespace WrittenValue

/-- The value. -/
def value : WrittenValue → Text
  | quoted _ value | bare value => value

/-- The value with its quotes. -/
def text : WrittenValue → Text
  | quoted quote value => Condition.quoted quote value
  | bare value => value

/-- The value can be written so. -/
def IsValid : WrittenValue → Prop
  | quoted quote value => isQuote quote ∧ quote ∉ value
  | bare value => IsBare value

variable {written : WrittenValue} (isValid : written.IsValid)

include isValid

theorem trimmed_text : Trimmed written.text := by
  cases written with
  | quoted quote value => exact trimmed_quoted isValid.1 value
  | bare value => exact isValid.trimmed

theorem text_ne_nil : written.text ≠ [] := by
  cases written with
  | quoted quote value => exact List.cons_ne_nil _ _
  | bare value => exact isValid.ne_nil

theorem readValue?_text : readValue? written.text = some written.value := by
  cases written with
  | quoted quote value => exact readValue?_quoted isValid.1 isValid.2
  | bare value => exact isValid.readValue?_eq

end WrittenValue

/-- What is read as a value is one written form of it. -/
theorem exists_written_of_readValue? {text value : Text} (read : readValue? text = some value) :
    ∃ written : WrittenValue, written.IsValid ∧ written.text = text ∧ written.value = value := by
  unfold readValue? at read
  split at read
  · cases read
  · rename_i c rest
    split at read
    · rename_i opening
      split at read
      · rename_i inner closing
        cases read
        obtain ⟨plain, quote, same, rfl⟩ := Text.of_splitOnce? closing
        obtain rfl := beq_iff_eq.mp same
        refine ⟨.quoted quote value, ⟨opening, fun member => plain quote member same⟩, rfl, rfl⟩
      · cases read
    · rename_i noQuote
      split at read
      · cases read
      · rename_i unbroken
        cases read
        simp only [Bool.not_eq_true, List.any_eq_false] at noQuote unbroken
        refine ⟨.bare (c :: rest), ⟨List.cons_ne_nil c rest, unbroken, ?_⟩, rfl, rfl⟩
        rintro _ ⟨⟩
        exact noQuote

theorem exists_of_ofStandardParts {parts : Parts} {condition : Condition}
    (read : ofStandardParts parts = .ok (some condition)) :
    ∃ comparison value operand,
      Comparison.ofSymbol? (Text.lower parts.operator) = some comparison ∧
        readValue? (Text.trim parts.remainder) = some value ∧
        readOperand (Text.lower parts.field) value = .ok operand ∧
        .standard (Text.lower parts.field) comparison operand = condition := by
  unfold ofStandardParts at read
  split at read
  · cases read
  · rename_i comparison found
    split at read
    · cases read
    · rename_i value valueRead
      obtain ⟨operand, operandRead, same⟩ := exists_of_map_eq_ok read
      exact ⟨comparison, value, operand, found, valueRead, operandRead, Option.some.inj same⟩

theorem isSetOff_quoted {quote : Char} (isQuote : isQuote quote) {value : Text}
    (oneLine : '\n' ∉ value) : isSetOff (' ' :: quoted quote value) := by
  have noQuote : quote ≠ '\n' := by
    rintro rfl
    exact absurd isQuote (by decide)
  have blank : isBlank ' ' := by decide
  simp [isSetOff, blank, quoted, oneLine, Ne.symm noQuote]

/-! ## Standard conditions -/

theorem trimmed_writeStandard {field : Text} (isField : IsField field) (symbol : Text)
    {quote : Char} (isQuote : isQuote quote) (value : Text) :
    Trimmed (writeStandard field symbol quote value) := by
  have around := (Query.trimmed_of_isWord isField.isWord).append_append
    (trimmed_quoted isQuote value) isField.ne_nil (by simp [quoted]) (' ' :: (symbol ++ [' ']))
  simpa [writeStandard] using around

/-- Every operator stands by itself between blanks and a text that is set off from it. -/
theorem divides_symbol (comparison : Comparison) {before remainder : Text} (spaced : before ≠ [])
    (setOff : isSetOff remainder) : Divides before comparison.symbol remainder := by
  cases comparison with
  | like => exact .word spaced (by decide) (by decide) setOff
  | eq | ne | gt | lt => exact .symbol (by decide) (by decide) (.inr setOff)

theorem standardParts?_writeStandard {field : Text} (isField : IsField field)
    (comparison : Comparison) {quote : Char} (isQuote : isQuote quote) {value : Text}
    (oneLine : '\n' ∉ value) :
    standardParts? (writeStandard field comparison.symbol quote value) =
      some ⟨field, comparison.symbol, ' ' :: quoted quote value⟩ :=
  standardParts?_eq_some_iff.mpr ⟨[' '], Text.blank_space, isField,
    divides_symbol comparison (List.cons_ne_nil _ _) (isSetOff_quoted isQuote oneLine), rfl⟩

theorem readOperand_written {quote : Char} {key : Text} {operand : Operand}
    (fits : OperandFits quote key operand) : readOperand key operand.written = .ok operand := by
  cases operand with
  | text value => simp [readOperand, fits.1, Operand.written]
  | contentType value =>
      obtain ⟨inKeys, rfl | rfl⟩ := fits
      · rw [readOperand, if_pos inKeys]
        rfl
      · rw [readOperand, if_pos inKeys]
        rfl

theorem OperandFits.plain {quote : Char} (isQuote : isQuote quote) {key : Text} {operand : Operand}
    (fits : OperandFits quote key operand) :
    quote ∉ operand.written ∧ '\n' ∉ operand.written := by
  cases operand with
  | text value => exact fits.2
  | contentType value =>
      obtain ⟨-, rfl | rfl⟩ := fits
      · rcases Query.eq_or_eq_of_isQuote isQuote with rfl | rfl
        all_goals decide
      · rcases Query.eq_or_eq_of_isQuote isQuote with rfl | rfl
        all_goals decide

theorem ofSymbol?_lower (comparison : Comparison) :
    Comparison.ofSymbol? (Text.lower comparison.symbol) = some comparison := by
  cases comparison
  all_goals rfl

theorem of_ofSymbol? {operator : Text} {comparison : Comparison}
    (found : Comparison.ofSymbol? operator = some comparison) : comparison.symbol = operator :=
  beq_iff_eq.mp (List.find?_some found :)

theorem symbol_ne_nil (comparison : Comparison) : comparison.symbol ≠ [] := by
  cases comparison
  all_goals decide

/-- A value between quotes that holds neither of them nor a line feed is read as the operand that it
is under the field in lower case. -/
theorem parse_quoted {field : Text} (isField : IsField field) (comparison : Comparison)
    {quote : Char} (isQuote : isQuote quote) {value : Text} (unclosed : quote ∉ value)
    (oneLine : '\n' ∉ value) :
    parse (writeStandard field comparison.symbol quote value) =
      (readOperand (Text.lower field) value).map fun operand =>
        some (.standard (Text.lower field) comparison operand) := by
  have trimmed := trimmed_writeStandard isField comparison.symbol isQuote value
  have remainder : Text.trim (' ' :: quoted quote value) = quoted quote value :=
    Text.trim_behind Text.blank_space (trimmed_quoted isQuote value)
  have read := standardParts?_writeStandard isField comparison isQuote oneLine
  rw [← Text.trim_of_trimmed trimmed] at read
  simp only [parse_of_standardParts? read, ofStandardParts, ofSymbol?_lower, remainder,
    readValue?_quoted isQuote unclosed]

/-- A written standard condition is read back, with its field in lower case. -/
theorem parse_writeStandard {field : Text} (isField : IsField field) (comparison : Comparison)
    {quote : Char} (isQuote : isQuote quote) {operand : Operand}
    (fits : OperandFits quote (Text.lower field) operand) :
    parse (writeStandard field comparison.symbol quote operand.written) =
      .ok (some (.standard (Text.lower field) comparison operand)) := by
  obtain ⟨unclosed, oneLine⟩ := fits.plain isQuote
  rw [parse_quoted isField comparison isQuote unclosed oneLine, readOperand_written fits]
  rfl

theorem symbol_unbroken (comparison : Comparison) : ∀ c ∈ comparison.symbol, isBlank c = false := by
  cases comparison
  all_goals decide

/-- No operator is found in front of a value that holds a line feed. -/
theorem standardParts?_of_lineFeed {field : Text} (isField : IsField field)
    (comparison : Comparison) (quote : Char) {value : Text} (lineFeed : '\n' ∈ value) :
    standardParts? (writeStandard field comparison.symbol quote value) = none := by
  rw [Option.eq_none_iff_forall_ne_some]
  intro parts read
  obtain ⟨before, blank, partsField, divides, split⟩ := standardParts?_eq_some_iff.mp read
  have inside : '\n' ∈ quoted quote value := by simp [quoted, lineFeed]
  have behind : EndsField (' ' :: (comparison.symbol ++ ' ' :: quoted quote value)) :=
    endsField_of_isBlank (by decide) _
  obtain ⟨-, same⟩ := EndsField.eq_of_append_eq (divides.endsField blank) behind partsField isField
    split
  have starts := divides.trimStart_eq blank
  rw [same, Text.trimStart, List.dropWhile_cons_of_pos (by decide), ← Text.trimStart,
    trimStart_of_stops (stops_append (symbol_ne_nil comparison) (symbol_unbroken comparison)),
    List.append_eq_append_iff] at starts
  -- The operator ends at the space before the value, so the line feed is in the remainder.
  rcases starts with ⟨more, operator_eq, remainder_eq⟩ | ⟨more, -, remainder_eq⟩
  · cases more with
    | nil =>
        rw [List.nil_append] at remainder_eq
        exact divides.oneLine (remainder_eq ▸ inside)
    | cons c more =>
        obtain ⟨rfl, -⟩ := List.cons.inj remainder_eq
        exact absurd (divides.unbroken ' ' (by simp [operator_eq])) (by decide)
  · refine divides.oneLine ?_
    cases more <;> simp [remainder_eq, inside]

/-- A text value between quotes that it does not hold is read back, unless it holds a line feed:
then the fragment is no condition. -/
theorem parse_quotedValue {field : Text} (isField : IsField field)
    (textKey : Text.lower field ∉ contentTypeKeys) (comparison : Comparison) {quote : Char}
    (isQuote : isQuote quote) {value : Text} (unclosed : quote ∉ value) :
    parse (writeStandard field comparison.symbol quote value) =
      .ok (if '\n' ∈ value then none
        else some (.standard (Text.lower field) comparison (.text value))) := by
  split
  · rename_i lineFeed
    have trimmed := trimmed_writeStandard isField comparison.symbol isQuote value
    have ends : EndsField (' ' :: (comparison.symbol ++ ' ' :: quoted quote value)) :=
      endsField_of_isBlank (by decide) _
    have noLength : lengthParts? (writeStandard field comparison.symbol quote value) = none :=
      ends.lengthParts?_eq_none isField
    rw [parse, Text.trim_of_trimmed trimmed, noLength,
      standardParts?_of_lineFeed isField comparison quote lineFeed]
  · rename_i oneLine
    have fits : OperandFits quote (Text.lower field) (.text value) := ⟨textKey, unclosed, oneLine⟩
    have read := parse_writeStandard isField comparison isQuote fits
    rwa [Operand.written] at read

/-- Quotes of the other kind and carriage returns can stand in a value, a line feed cannot. -/
theorem parse_quotedValue_body :
    parse "Req.Body like \"it's\ra body\"".toList =
        .ok (some (.standard "req.body".toList .like (.text "it's\ra body".toList))) ∧
      parse "Req.Body like 'a\nbody'".toList = .ok none := by
  have isField : IsField "Req.Body".toList :=
    .member ⟨'R', "eq".toList, rfl, by decide, by decide⟩
      ⟨'B', "ody".toList, rfl, by decide, by decide⟩
  have textKey : Text.lower "Req.Body".toList ∉ contentTypeKeys := by decide
  constructor
  · have read := parse_quotedValue isField textKey .like (show isQuote '"' by decide)
      (show '"' ∉ "it's\ra body".toList by decide)
    rwa [if_neg (by decide)] at read
  · have read := parse_quotedValue isField textKey .like (show isQuote '\'' by decide)
      (show '\'' ∉ "a\nbody".toList by decide)
    rwa [if_pos (by decide)] at read

/-- A quoted value with a line feed is not read. -/
theorem not_parse_lineFeed :
    IsField "body".toList ∧ '\'' ∉ "a\nb".toList ∧
      parse "body = 'a\nb'".toList ≠
        .ok (some (.standard "body".toList .eq (.text "a\nb".toList))) :=
  ⟨.name ⟨'b', "ody".toList, rfl, by decide, by decide⟩, by decide, by decide⟩

/-! ## Conditions on a length -/

theorem isWord_literal {literal : Text} (ne_nil : literal ≠ [])
    (digits : ∀ c ∈ literal, Text.isDecimalDigit c) : IsWord literal where
  ne_nil := ne_nil
  plain := by
    intro c member
    have digit := digits c member
    constructor
    · rw [Bool.eq_false_iff]
      intro blank
      rw [Text.isDecimalDigit_of_isBlank blank] at digit
      exact absurd digit (by decide)
    · rw [Bool.eq_false_iff]
      intro quote
      rcases Query.eq_or_eq_of_isQuote quote with rfl | rfl
      all_goals exact absurd digit (by decide)

theorem isBlank_of_isLengthFieldChar {c : Char} (continues : isLengthFieldChar c) :
    isBlank c = false := by
  simp only [isLengthFieldChar, Bool.not_eq_true', Bool.or_eq_false_iff] at continues
  exact continues.2

theorem trimStart_space {text : Text} (stops : Stops isBlank text) :
    Text.trimStart (' ' :: text) = text := by
  rw [Text.trimStart, List.dropWhile_cons_of_pos (by decide)]
  exact trimStart_of_stops stops

theorem takeRun?_operator {symbol rest : Text} (ne_nil : symbol ≠ [])
    (symbolic : ∀ c ∈ symbol, isOperatorChar c) :
    takeRun? isOperatorChar (symbol ++ ' ' :: rest) = some (symbol, ' ' :: rest) := by
  refine takeRun?_append ne_nil symbolic fun c head => ?_
  obtain rfl := Option.some.inj head
  decide

theorem lengthParts?_writeLength {field symbol literal : Text} (field_ne_nil : field ≠ [])
    (continues : ∀ c ∈ field, isLengthFieldChar c) (symbol_ne_nil : symbol ≠ [])
    (symbolic : ∀ c ∈ symbol, isOperatorChar c) (isWord : IsWord literal) :
    lengthParts? (writeLength field symbol literal) = some ⟨field, symbol, literal⟩ := by
  let behind := ' ' :: (symbol ++ ' ' :: literal)
  have opening : (writeLength field symbol literal).take lengthOpening.length = lengthOpening :=
    List.take_left
  have inner : (writeLength field symbol literal).drop lengthOpening.length =
      field ++ ')' :: behind := List.drop_left
  have fieldStarts : Stops isBlank (field ++ ')' :: behind) :=
    stops_append field_ne_nil fun c member => isBlank_of_isLengthFieldChar (continues c member)
  have fieldRun : takeRun? isLengthFieldChar (field ++ ')' :: behind) =
      some (field, ')' :: behind) := by
    refine takeRun?_append field_ne_nil continues fun c head => ?_
    obtain rfl := Option.some.inj head
    decide
  have closing : Text.trimStart (')' :: behind) = ')' :: behind := by
    refine trimStart_of_stops fun c head => ?_
    obtain rfl := Option.some.inj head
    decide
  have symbolStarts : Text.trimStart behind = symbol ++ ' ' :: literal :=
    trimStart_space
      (stops_append symbol_ne_nil fun c member => isBlank_of_isOperatorChar (symbolic c member))
  have literalStarts : Stops isBlank literal := (Query.trimmed_of_isWord isWord).1
  have oneLine : '\n' ∉ literal := fun member =>
    absurd (isWord.plain '\n' member).1 (by decide)
  rw [lengthParts?, opening, if_pos (by decide), inner, trimStart_of_stops fieldStarts, fieldRun]
  dsimp only
  rw [closing]
  simp only
  rw [symbolStarts, takeRun?_operator symbol_ne_nil symbolic, Option.some_or]
  dsimp only
  rw [trimStart_space literalStarts]
  simp [oneLine]

theorem ofSymbol?_symbol (comparison : LengthComparison) :
    LengthComparison.ofSymbol? comparison.symbol = some comparison := by
  cases comparison
  all_goals rfl

theorem lengthSymbol_plain (comparison : LengthComparison) :
    comparison.symbol ≠ [] ∧ ∀ c ∈ comparison.symbol, isOperatorChar c := by
  cases comparison
  all_goals decide

theorem trimmed_writeLength {field symbol literal : Text} (isWord : IsWord literal) :
    Trimmed (writeLength field symbol literal) := by
  have opening : Trimmed lengthOpening := by decide
  have around := opening.append_append (Query.trimmed_of_isWord isWord) (by decide) isWord.ne_nil
    (field ++ ')' :: ' ' :: (symbol ++ [' ']))
  simpa [writeLength] using around

/-- A written condition on a length is read back, with its field in lower case. -/
theorem parse_writeLength {field literal : Text} (comparison : LengthComparison)
    (field_ne_nil : field ≠ []) (continues : ∀ c ∈ field, isLengthFieldChar c)
    (literal_ne_nil : literal ≠ []) (digits : ∀ c ∈ literal, Text.isDecimalDigit c) :
    parse (writeLength field comparison.symbol literal) =
      .ok (some (.length (Text.lower field) comparison literal)) := by
  have isWord := isWord_literal literal_ne_nil digits
  obtain ⟨symbol_ne_nil, symbolic⟩ := lengthSymbol_plain comparison
  have allDigits : literal.all Text.isDecimalDigit = true := List.all_eq_true.mpr digits
  simp only [parse, Text.trim_of_trimmed (trimmed_writeLength isWord),
    lengthParts?_writeLength field_ne_nil continues symbol_ne_nil symbolic isWord, ofLengthParts,
    ofSymbol?_symbol, Text.trim_of_trimmed (Query.trimmed_of_isWord isWord)]
  simp [literal_ne_nil, allDigits]

theorem parse_write {quote : Char} (isQuote : isQuote quote) {condition : Condition}
    (writable : condition.IsWritable quote) :
    parse (condition.write quote) = .ok (some condition) := by
  cases condition with
  | standard key comparison operand =>
      obtain ⟨isField, lowered, fits⟩ := writable
      have read := parse_writeStandard isField comparison isQuote (lowered.symm ▸ fits)
      rwa [lowered] at read
  | length key comparison literal =>
      obtain ⟨⟨key_ne_nil, continues⟩, lowered, literal_ne_nil, digits⟩ := writable
      rw [write, parse_writeLength comparison key_ne_nil continues literal_ne_nil digits, lowered]

end Condition

end ProxyHistory
