import ProxyHistory.Proofs.Condition.Written
import ProxyHistory.Proofs.Query.Fragments
import ProxyHistory.Query.Basic

/-!
# Keywords in written conditions

Only the field of a written condition can be taken for a keyword or leave a quote open: its operator
and its literal spell no keyword, and its value stands in quotes.
-/

namespace ProxyHistory

open Text (isBlank Trimmed sameIgnoringCase)
open Query (isQuote IsWord Closed StartsBlank keywordPositions occurrences)

namespace Query

/-- A keyword that no part of a condition but its field can spell. -/
structure IsKeyword (word : Text) : Prop where
  ne_nil : word ≠ []
  letters : ∀ c ∈ word, c.isAlpha
  notLike : sameIgnoringCase "like".toList word = false

theorem isKeyword_select : IsKeyword selectKeyword :=
  ⟨by decide, by decide, by decide⟩

theorem isKeyword_from : IsKeyword fromKeyword :=
  ⟨by decide, by decide, by decide⟩

theorem isKeyword_and : IsKeyword andKeyword :=
  ⟨by decide, by decide, by decide⟩

theorem isKeyword_where : IsKeyword whereKeyword :=
  ⟨by decide, by decide, by decide⟩

theorem isKeyword_limit : IsKeyword limitKeyword :=
  ⟨by decide, by decide, by decide⟩

theorem IsKeyword.isWord {word : Text} (isKeyword : IsKeyword word) : IsWord word where
  ne_nil := isKeyword.ne_nil
  plain := by
    intro c member
    have letter := (Text.isAlpha_iff c).mp (isKeyword.letters c member)
    constructor
    · rw [Bool.eq_false_iff]
      intro blank
      have code := Text.mem_blankCodes blank
      simp only [Text.blankCodes, List.mem_cons, List.not_mem_nil, or_false] at code
      omega
    · rw [Bool.eq_false_iff]
      intro quote
      rcases Query.eq_or_eq_of_isQuote quote with rfl | rfl
      all_goals exact absurd letter (by decide)

theorem IsKeyword.not_same {word text : Text} (isKeyword : IsKeyword word) {mark : Char}
    (member : mark ∈ text) (noLetter : ¬ mark.isAlpha) : sameIgnoringCase text word = false := by
  rw [Bool.eq_false_iff]
  intro same
  exact noLetter (Text.forall_mem_of_same Text.isAlpha_toLower same isKeyword.letters mark member)

theorem Scan.quote?_step_self {scan : Scan} {quote : Char} (inside : scan.quote? = some quote) :
    (scan.step quote).quote? = none := by
  simp [step, inside]

theorem occurrences_of_quoted {word : Text} {scan : Scan} {quote : Char}
    (inside : scan.quote? = some quote) {value : Text} (unclosed : quote ∉ value) :
    occurrences word scan (value ++ [quote]) = [] := by
  induction value generalizing scan with
  | nil => simp [occurrences, Scan.atWordStart, inside]
  | cons c value induction =>
      rw [List.mem_cons, not_or] at unclosed
      have insideStep : (scan.step c).quote? = some quote := by
        simp [Scan.step, inside, Ne.symm unclosed.1]
      rw [List.cons_append, occurrences, induction insideStep unclosed.2]
      simp [Scan.atWordStart, inside]

end Query

namespace Condition

section Quoted

variable {quote : Char} (isQuote : isQuote quote) {value : Text} (unclosed : quote ∉ value)

include isQuote unclosed

theorem keywordPositions_quoted {word : Text} (isWord : IsWord word) :
    keywordPositions word (quoted quote value) = [] := by
  have inside : (Query.Scan.start.step quote).quote? = some quote := by
    simp [Query.Scan.step, Query.Scan.start, isQuote]
  rw [keywordPositions, quoted, occurrences, Query.startsWithWord_quote_cons isWord isQuote,
    Query.occurrences_of_quoted inside unclosed]
  simp

theorem closed_quoted : Closed (quoted quote value) := by
  have inside : (Query.Scan.start.step quote).quote? = some quote := by
    simp [Query.Scan.step, Query.Scan.start, isQuote]
  have stillInside := Query.Scan.quote?_run_of_open inside unclosed
  rw [Closed, quoted, Query.Scan.run_cons, Query.Scan.run_append]
  exact Query.Scan.quote?_step_self stillInside

end Quoted

/-- A word and a space in front of a text hold a keyword only if the word is the keyword. -/
theorem keywordPositions_spaced {word other text : Text} (isWord : IsWord word)
    (otherIsWord : IsWord other) (absent : keywordPositions word text = []) :
    keywordPositions word (other ++ ' ' :: text) =
      if sameIgnoringCase other word then [0] else [] := by
  have starts := Query.startsBlank_space text
  have behind : keywordPositions word ([' '] ++ text) = [] := by
    rw [Query.keywordPositions_blank_append isWord Text.blank_space, absent, List.map_nil]
  rw [Query.keywordPositions_word_append isWord otherIsWord starts]
  change _ ++ (keywordPositions word ([' '] ++ text)).map _ = _
  rw [behind, List.map_nil, List.append_nil]

theorem closed_spaced {other text : Text} (otherIsWord : IsWord other) (closed : Closed text) :
    Closed (other ++ ' ' :: text) := by
  have plain : ∀ c ∈ other ++ [' '], Query.isQuote c = false := by
    intro c member
    rcases List.mem_append.mp member with inOther | space
    · exact (otherIsWord.plain c inOther).2
    · rw [List.mem_singleton.mp space]
      decide
  have whole := (Query.closed_plain_append plain text).mpr closed
  simpa using whole

theorem isWord_symbol (comparison : Comparison) : IsWord comparison.symbol := by
  cases comparison
  all_goals decide

theorem isWord_lengthSymbol (comparison : LengthComparison) : IsWord comparison.symbol := by
  cases comparison
  all_goals decide

/-- Only the field of a standard condition can be a keyword. -/
theorem keywordPositions_writeStandard {word field : Text} (isKeyword : Query.IsKeyword word)
    (isField : IsField field) (comparison : Comparison) {quote : Char} (isQuote : isQuote quote)
    {value : Text} (unclosed : quote ∉ value) :
    keywordPositions word (writeStandard field comparison.symbol quote value) =
      if sameIgnoringCase field word then [0] else [] := by
  have noKeyword : sameIgnoringCase comparison.symbol word = false := by
    cases comparison with
    | like => exact isKeyword.notLike
    | eq => exact isKeyword.not_same (show '=' ∈ _ by decide) (by decide)
    | ne => exact isKeyword.not_same (show '=' ∈ _ by decide) (by decide)
    | gt => exact isKeyword.not_same (show '>' ∈ _ by decide) (by decide)
    | lt => exact isKeyword.not_same (show '<' ∈ _ by decide) (by decide)
  have inner : keywordPositions word (comparison.symbol ++ ' ' :: quoted quote value) = [] := by
    rw [keywordPositions_spaced isKeyword.isWord (isWord_symbol comparison)
      (keywordPositions_quoted isQuote unclosed isKeyword.isWord), noKeyword]
    rfl
  exact keywordPositions_spaced isKeyword.isWord isField.isWord inner

theorem closed_writeStandard {field : Text} (isField : IsField field) (comparison : Comparison)
    {quote : Char} (isQuote : isQuote quote) {value : Text} (unclosed : quote ∉ value) :
    Closed (writeStandard field comparison.symbol quote value) :=
  closed_spaced isField.isWord
    (closed_spaced (isWord_symbol comparison) (closed_quoted isQuote unclosed))

/-- The field of a condition on a length, in its parentheses. -/
def lengthField (field : Text) : Text :=
  lengthOpening ++ (field ++ [')'])

/-- No keyword stands in the field of a condition on a length, whatever quotes it holds. -/
theorem keywordPositions_lengthField {word field : Text} (isKeyword : Query.IsKeyword word)
    (continues : ∀ c ∈ field, isLengthFieldChar c) :
    keywordPositions word (lengthField field) = [] := by
  have unbroken : ∀ c ∈ lengthField field, isBlank c = false := by
    have opening : ∀ c ∈ lengthOpening, isBlank c = false := by decide
    have closing : ∀ c ∈ [')'], isBlank c = false := by decide
    intro c member
    rcases List.mem_append.mp member with inOpening | inRest
    · exact opening c inOpening
    · rcases List.mem_append.mp inRest with inField | inClosing
      · exact isBlank_of_isLengthFieldChar (continues c inField)
      · exact closing c inClosing
  have notKeyword : Query.startsWithWord word (lengthField field) = false := by
    have token : (lengthField field).takeWhile (!isBlank ·) = lengthField field :=
      List.takeWhile_eq_self_iff.mpr fun c member => by simp [unbroken c member]
    rw [Bool.eq_false_iff, ne_eq, Query.startsWithWord_iff isKeyword.isWord, token,
      isKeyword.not_same (show '(' ∈ lengthField field by simp [lengthField, lengthOpening])
        (by decide)]
    decide
  obtain ⟨first, rest, split⟩ := List.exists_cons_of_ne_nil
    (show lengthField field ≠ [] by simp [lengthField, lengthOpening])
  rw [split] at unbroken notKeyword ⊢
  obtain ⟨firstUnbroken, restUnbroken⟩ := List.forall_mem_cons.mp unbroken
  have inWord : (Query.Scan.start.step first).afterBlank = false := firstUnbroken
  rw [keywordPositions, occurrences, notKeyword,
    Query.occurrences_of_not_afterBlank inWord restUnbroken]
  simp

theorem not_isAlpha_of_isDecimalDigit {c : Char} (digit : Text.isDecimalDigit c) : ¬ c.isAlpha := by
  intro letter
  have code := (Text.isAlpha_iff c).mp letter
  have ascii : c.toNat < 0x80 := by omega
  rw [Text.isDecimalDigit, if_pos ascii] at digit
  simp only [Char.isDigit, Bool.and_eq_true, decide_eq_true_eq, UInt32.le_iff_toNat_le] at digit
  change 48 ≤ c.toNat ∧ c.toNat ≤ 57 at digit
  omega

theorem keywordPositions_literal {word literal : Text} (isKeyword : Query.IsKeyword word)
    (ne_nil : literal ≠ []) (digits : ∀ c ∈ literal, Text.isDecimalDigit c) :
    keywordPositions word literal = [] := by
  obtain ⟨first, rest, rfl⟩ := List.exists_cons_of_ne_nil ne_nil
  rw [Query.keywordPositions_of_isWord isKeyword.isWord (isWord_literal ne_nil digits),
    isKeyword.not_same List.mem_cons_self
      (not_isAlpha_of_isDecimalDigit (digits first (by simp)))]
  rfl

theorem keywordPositions_lengthSymbol {word text : Text} (isKeyword : Query.IsKeyword word)
    (comparison : LengthComparison) (absent : keywordPositions word text = []) :
    keywordPositions word (comparison.symbol ++ ' ' :: text) = [] := by
  have noKeyword : sameIgnoringCase comparison.symbol word = false := by
    cases comparison with
    | eq | ne | ge | le => exact isKeyword.not_same (show '=' ∈ _ by decide) (by decide)
    | gt => exact isKeyword.not_same (show '>' ∈ _ by decide) (by decide)
    | lt => exact isKeyword.not_same (show '<' ∈ _ by decide) (by decide)
  rw [keywordPositions_spaced isKeyword.isWord (isWord_lengthSymbol comparison) absent, noKeyword]
  rfl

/-- What stands behind the field of a condition on a length. -/
def lengthTail (comparison : LengthComparison) (literal : Text) : Text :=
  ' ' :: (comparison.symbol ++ ' ' :: literal)

theorem writeLength_eq (field : Text) (comparison : LengthComparison) (literal : Text) :
    writeLength field comparison.symbol literal =
      lengthField field ++ lengthTail comparison literal := by
  simp [writeLength, lengthField, lengthTail]

theorem plain_lengthTail (comparison : LengthComparison) {literal : Text}
    (isWord : IsWord literal) :
    ∀ c ∈ lengthTail comparison literal, Query.isQuote c = false := by
  intro c member
  simp only [lengthTail, List.mem_cons, List.mem_append] at member
  rcases member with rfl | inSymbol | rfl | inLiteral
  · decide
  · exact ((isWord_lengthSymbol comparison).plain c inSymbol).2
  · decide
  · exact (isWord.plain c inLiteral).2

/-- The field of a condition on a length leaves a quote open in its parentheses as it does alone. -/
theorem closed_writeLength_iff (field : Text) (comparison : LengthComparison) {literal : Text}
    (isWord : IsWord literal) :
    Closed (writeLength field comparison.symbol literal) ↔ Closed field := by
  rw [writeLength_eq, Query.closed_append_plain (plain_lengthTail comparison isWord), lengthField,
    Query.closed_plain_append (by decide), Query.closed_append_plain (by decide)]

/-- A condition on a length holds no keyword, even if its field leaves a quote open. -/
theorem keywordPositions_writeLength {word field literal : Text}
    (isKeyword : Query.IsKeyword word) (continues : ∀ c ∈ field, isLengthFieldChar c)
    (comparison : LengthComparison) (ne_nil : literal ≠ [])
    (digits : ∀ c ∈ literal, Text.isDecimalDigit c) :
    keywordPositions word (writeLength field comparison.symbol literal) = [] := by
  have starts : StartsBlank (lengthTail comparison literal) := Query.startsBlank_space _
  have absentField := keywordPositions_lengthField isKeyword continues
  have absentTail : keywordPositions word (lengthTail comparison literal) = [] := by
    change keywordPositions word ([' '] ++ (comparison.symbol ++ ' ' :: literal)) = []
    rw [Query.keywordPositions_blank_append isKeyword.isWord Text.blank_space,
      keywordPositions_lengthSymbol isKeyword comparison
        (keywordPositions_literal isKeyword ne_nil digits), List.map_nil]
  rw [writeLength_eq]
  by_cases closed : Closed (lengthField field)
  · rw [Query.keywordPositions_append_of_closed isKeyword.isWord closed starts, absentField,
      absentTail, List.map_nil, List.append_nil]
  · rw [Query.keywordPositions_append_of_not_closed isKeyword.isWord closed (.inr starts)
      (plain_lengthTail comparison (isWord_literal ne_nil digits)), absentField]

/-- The field in front of the condition does not spell the word. -/
def Spares (word : Text) : Condition → Prop
  | .standard key _ _ => sameIgnoringCase key word = false
  | .length _ _ _ => True

/-- If the condition is one on a length, its field leaves no quote open. -/
def IsClosed : Condition → Prop
  | .standard _ _ _ => True
  | .length key _ _ => Closed key

instance (word : Text) : DecidablePred (Spares word)
  | .standard _ _ _ => inferInstanceAs (Decidable (_ = _))
  | .length _ _ _ => .isTrue trivial

instance : DecidablePred IsClosed
  | .standard _ _ _ => .isTrue trivial
  | .length _ _ _ => inferInstanceAs (Decidable (Closed _))

end Condition

/-- A condition and the quote that its value stands in. -/
structure WrittenCondition where
  /-- The condition. -/
  condition : Condition
  /-- The quote around its value, if it has one. -/
  quote : Char
  isQuote : Query.isQuote quote
  writable : condition.IsWritable quote

namespace WrittenCondition

/-- The written form. -/
def text (written : WrittenCondition) : Text :=
  written.condition.write written.quote

variable (written : WrittenCondition)

theorem parse_text : Condition.parse written.text = .ok (some written.condition) :=
  Condition.parse_write written.isQuote written.writable

theorem trimmed_text : Trimmed written.text ∧ written.text ≠ [] := by
  obtain ⟨condition, quote, isQuote, writable⟩ := written
  cases condition with
  | standard key comparison operand =>
      refine ⟨Condition.trimmed_writeStandard writable.1 _ isQuote _, ?_⟩
      simp [text, Condition.write, Condition.writeStandard]
  | length key comparison literal =>
      refine ⟨Condition.trimmed_writeLength
        (Condition.isWord_literal writable.2.2.1 writable.2.2.2), ?_⟩
      simp [text, Condition.write, Condition.writeLength, Condition.lengthOpening]

theorem keywordPositions_text_iff {word : Text} (isKeyword : Query.IsKeyword word) :
    keywordPositions word written.text = [] ↔ written.condition.Spares word := by
  obtain ⟨condition, quote, isQuote, writable⟩ := written
  cases condition with
  | standard key comparison operand =>
      obtain ⟨isField, -, fits⟩ := writable
      rw [text, Condition.write, Condition.keywordPositions_writeStandard isKeyword isField
        comparison isQuote (fits.plain isQuote).1, Condition.Spares]
      simp
  | length key comparison literal =>
      obtain ⟨⟨-, continues⟩, -, ne_nil, digits⟩ := writable
      simp only [text, Condition.write, Condition.Spares, iff_true]
      exact Condition.keywordPositions_writeLength isKeyword continues comparison ne_nil digits

theorem closed_text_iff : Closed written.text ↔ written.condition.IsClosed := by
  obtain ⟨condition, quote, isQuote, writable⟩ := written
  cases condition with
  | standard key comparison operand =>
      obtain ⟨isField, -, fits⟩ := writable
      simp only [text, Condition.write, Condition.IsClosed, iff_true]
      exact Condition.closed_writeStandard isField comparison isQuote (fits.plain isQuote).1
  | length key comparison literal =>
      obtain ⟨-, -, ne_nil, digits⟩ := writable
      exact Condition.closed_writeLength_iff key comparison (Condition.isWord_literal ne_nil digits)

end WrittenCondition

end ProxyHistory
