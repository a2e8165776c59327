import ProxyHistory.Proofs.Condition.Scanned
import ProxyHistory.Proofs.Query.Clauses
import ProxyHistory.Proofs.Query.Literals

/-!
# A limit behind a query

A query that has no LIMIT clause and leaves no quote open can be given one at its end. It has the
limit that is read there then, and is read as before in everything else.
-/

namespace ProxyHistory.Query

open Text (Blank Trimmed sameIgnoringCase)

/-- A text has no LIMIT clause: from its FROM on, no LIMIT stands as a keyword. -/
def Unlimited (text : Text) : Prop :=
  ∀ clauses : Clauses, clauses.Located (Text.trim text) → clauses.limitAt? = none

/-- A text with a LIMIT clause at its end. -/
def limited (text literal : Text) : Text :=
  text ++ " LIMIT ".toList ++ literal

/-- The clauses of a text with LIMIT behind them. -/
def Clauses.withLimit (clauses : Clauses) (limitAt length : Nat) : Clauses :=
  { clauses with
    limitAt? := some limitAt
    length }

/-- Blanks and a LIMIT clause. -/
def limitBehind (gap literal : Text) : Text :=
  gap ++ (limitKeyword ++ ([' '] ++ literal))

/-- What reaches up to the end of a text reaches up to the LIMIT clause behind it. -/
theorem exists_blank_of_span (start : Nat) (core : Text) {gap : Text} (gap_blank : Blank gap)
    (literal : Text) :
    ∃ blanks, Blank blanks ∧
      (⟨start, core.length + gap.length⟩ : Span).of (core ++ limitBehind gap literal) =
        (⟨start, core.length⟩ : Span).of core ++ blanks := by
  refine ⟨gap.drop (start - core.length), fun c member => gap_blank c (List.mem_of_mem_drop member),
    ?_⟩
  simp only [Span.of, limitBehind, List.take_length]
  rw [← List.append_assoc, ← List.length_append, List.take_left, List.drop_append]

theorem keywordPositions_limitBehind {core gap literal word : Text} {number : Nat}
    (closed : Closed core) (gap_blank : Blank gap) (gap_ne_nil : gap ≠ [])
    (read : Text.digits? literal = some number) (isKeyword : IsKeyword word) :
    keywordPositions word (core ++ limitBehind gap literal) =
      keywordPositions word core ++
        if sameIgnoringCase limitKeyword word then [core.length + gap.length] else [] := by
  obtain ⟨ne_nil, digits⟩ := Text.isDigit_of_digits? read
  have starts : StartsBlank (limitBehind gap literal) :=
    (StartsBlank.of_blank gap_blank).append_of_ne_nil gap_ne_nil _
  have inLiteral : keywordPositions word ([' '] ++ literal) = [] := by
    rw [keywordPositions_blank_append isKeyword.isWord Text.blank_space,
      Condition.keywordPositions_literal isKeyword ne_nil fun c member =>
        Text.isDecimalDigit_of_isDigit (digits c member), List.map_nil]
  rw [keywordPositions_append_of_closed isKeyword.isWord closed starts, limitBehind,
    keywordPositions_blank_append isKeyword.isWord gap_blank,
    keywordPositions_word_append isKeyword.isWord isWord_limitKeyword
      ((StartsBlank.of_blank Text.blank_space).append_of_ne_nil (List.cons_ne_nil _ _) literal),
    inLiteral]
  split
  · simp [Nat.add_comm]
  · rfl

section Located

variable {core : Text} {clauses : Clauses} (located : clauses.Located core)
  (unlimited : clauses.limitAt? = none)

include located

theorem fieldSpan_withLimit (limitAt length : Nat) (behind : Text) :
    (clauses.withLimit limitAt length).fieldSpan.of (core ++ behind) =
      clauses.fieldSpan.of core :=
  Span.of_left (Nat.le_of_lt located.fromAt_lt) behind

theorem limit_withLimit (gap : Text) {literal : Text} (trimmed : Trimmed literal) :
    ((clauses.withLimit (core.length + gap.length)
        (core ++ limitBehind gap literal).length).limitSpan?.map fun span =>
          readLimit (Text.trim (span.of (core ++ limitBehind gap literal)))) =
      some (readLimit literal) := by
  have not_behind : (clauses.whereAt?.filter (core.length + gap.length < ·)) = none := by
    rw [Option.filter_eq_none_iff]
    intro position found
    have position_lt := located.whereAt_lt position found
    simp only [decide_eq_true_eq]
    omega
  have text_eq : core ++ limitBehind gap literal =
      (core ++ gap ++ limitKeyword) ++ ([' '] ++ literal) := by
    simp only [limitBehind, List.append_assoc]
  have start_eq : core.length + gap.length + limitKeyword.length =
      (core ++ gap ++ limitKeyword).length := by
    simp only [List.length_append]
  simp only [Clauses.limitSpan?, Clauses.withLimit, Option.map_some, Clauses.stopBefore,
    not_behind, Option.getD_none]
  rw [start_eq, text_eq, Span.of_rest, Text.trim_behind Text.blank_space trimmed]

include unlimited

theorem located_withLimit {gap literal : Text} {number : Nat} (closed : Closed core)
    (gap_blank : Blank gap) (gap_ne_nil : gap ≠ [])
    (read : Text.digits? literal = some number) :
    (clauses.withLimit (core.length + gap.length)
      (core ++ limitBehind gap literal).length).Located (core ++ limitBehind gap literal) := by
  have unchanged {word : Text} (isKeyword : IsKeyword word)
      (different : sameIgnoringCase limitKeyword word = false) :
      keywordPositions word (core ++ limitBehind gap literal) = keywordPositions word core := by
    rw [keywordPositions_limitBehind closed gap_blank gap_ne_nil read isKeyword, different]
    exact List.append_nil _
  have behind : clauses.fromAt ≤ core.length + gap.length :=
    Nat.le_trans (Nat.le_of_lt located.fromAt_lt) (Nat.le_add_right _ _)
  exact {
    selectAt := (congrArg List.head? (unchanged isKeyword_select rfl)).trans located.selectAt
    fromAt := (congrArg List.head? (unchanged isKeyword_from rfl)).trans located.fromAt
    ordered := located.ordered
    whereAt := by
      rw [unchanged isKeyword_where rfl]
      exact located.whereAt
    limitAt := by
      have inCore := located.limitAt.symm.trans unlimited
      rw [keywordPositions_limitBehind closed gap_blank gap_ne_nil read isKeyword_limit,
        List.find?_append, if_pos (Text.sameIgnoringCase_self _)]
      simp [Clauses.withLimit, inCore, behind]
    length := rfl }

variable {gap : Text} (gap_blank : Blank gap) (literal : Text)

include gap_blank

/-- The source ends where it did, or goes on with blanks. -/
theorem trim_sourceSpan_withLimit :
    Text.trim ((clauses.withLimit (core.length + gap.length)
        (core ++ limitBehind gap literal).length).sourceSpan.of (core ++ limitBehind gap literal)) =
      Text.trim (clauses.sourceSpan.of core) := by
  cases where_eq : clauses.whereAt? with
  | some position =>
      have position_lt := located.whereAt_lt position where_eq
      simp only [Clauses.sourceSpan, Clauses.withLimit, where_eq, unlimited, located.length,
        Option.getD_some, Option.getD_none]
      rw [Nat.min_eq_left (by omega), Nat.min_eq_left (by omega),
        Span.of_left (Nat.le_of_lt position_lt)]
  | none =>
      obtain ⟨blanks, blank, span_eq⟩ := exists_blank_of_span
        (clauses.fromAt + fromKeyword.length) core gap_blank literal
      have stop_le : core.length + gap.length ≤ (core ++ limitBehind gap literal).length := by
        simp only [limitBehind, List.length_append]
        omega
      simp only [Clauses.sourceSpan, Clauses.withLimit, where_eq, unlimited, located.length,
        Option.getD_some, Option.getD_none]
      rw [Nat.min_eq_right stop_le, Nat.min_self, span_eq]
      exact Text.trim_blank_append_blank Text.Blank.nil blank _

theorem conditions_withLimit :
    ((clauses.withLimit (core.length + gap.length)
        (core ++ limitBehind gap literal).length).conditionSpan?.map fun span =>
          fragments (span.of (core ++ limitBehind gap literal))) =
      clauses.conditionSpan?.map fun span => fragments (span.of core) := by
  cases where_eq : clauses.whereAt? with
  | none => simp [Clauses.conditionSpan?, Clauses.withLimit, where_eq]
  | some position =>
      have position_lt := located.whereAt_lt position where_eq
      obtain ⟨blanks, blank, span_eq⟩ := exists_blank_of_span
        (position + whereKeyword.length) core gap_blank literal
      have before : position < core.length + gap.length := by omega
      simp only [Clauses.conditionSpan?, Clauses.withLimit, where_eq, unlimited,
        Clauses.stopBefore, Option.filter, before, decide_true, if_true, Option.getD_some,
        Option.getD_none, Option.map_some, located.length, span_eq]
      exact congrArg some (fragments_blank_append_blank Text.Blank.nil blank _)

end Located

theorem exists_trim_limited {text literal : Text} (ne_nil : Text.trim text ≠ [])
    (isWord : IsWord literal) :
    ∃ gap, Blank gap ∧ gap ≠ [] ∧
      Text.trim (limited text literal) = Text.trim text ++ limitBehind gap literal := by
  obtain ⟨after, after_blank, start_eq⟩ := Text.exists_blank_trimStart text
  have start_ne_nil : Text.trimStart text ≠ [] := by
    rw [start_eq]
    exact List.append_ne_nil_of_left_ne_nil ne_nil after
  have clause_trimmed : Trimmed (limitKeyword ++ ([' '] ++ literal)) :=
    (trimmed_of_isWord isWord_limitKeyword).append_append (trimmed_of_isWord isWord)
      isWord_limitKeyword.ne_nil isWord.ne_nil [' ']
  have text_eq : limited text literal =
      (text ++ [' ']) ++ ((limitKeyword ++ ([' '] ++ literal)) ++ []) := by
    simp only [limited, limitKeyword, List.append_assoc, List.append_nil]
    rfl
  refine ⟨after ++ [' '], after_blank.append Text.blank_space, by simp, ?_⟩
  rw [text_eq, Text.trim_append_append clause_trimmed (List.cons_ne_nil _ _),
    Text.trimStart_append_of_ne_nil start_ne_nil, start_eq]
  simp [limitBehind, Text.trimEnd]

/-- A query with a LIMIT clause at its end is the query with the limit that is read there. -/
theorem parse_limited {text literal : Text} {query : Query} {number : Nat}
    (parsed : parse text = .ok query) (unlimited : Unlimited text) (closed : Closed text)
    (read : Text.digits? literal = some number) :
    parse (limited text literal) = .ok { query with limit := readLimit literal } := by
  obtain ⟨clauses, located, selects, named, rfl⟩ := parse_eq_ok_iff.mp parsed
  have none_at := unlimited clauses located
  have core_closed := (closed_trim text).mpr closed
  have isWord : IsWord literal := by
    obtain ⟨ne_nil, digits⟩ := Text.isDigit_of_digits? read
    exact Condition.isWord_literal ne_nil fun c member =>
      Text.isDecimalDigit_of_isDigit (digits c member)
  have core_ne_nil : Text.trim text ≠ [] := by
    intro empty
    have selectAt := located.selectAt
    rw [empty] at selectAt
    cases selectAt
  obtain ⟨gap, gap_blank, gap_ne_nil, trim_eq⟩ := exists_trim_limited core_ne_nil isWord
  refine parse_eq_ok_iff.mpr ⟨_, trim_eq ▸ located_withLimit located none_at core_closed gap_blank
    gap_ne_nil read, ?_⟩
  rw [trim_eq, fieldSpan_withLimit located, trim_sourceSpan_withLimit located none_at gap_blank,
    conditions_withLimit located none_at gap_blank,
    limit_withLimit located gap (trimmed_of_isWord isWord)]
  exact ⟨selects, named, rfl⟩

end ProxyHistory.Query
