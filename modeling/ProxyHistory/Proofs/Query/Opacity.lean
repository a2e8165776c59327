import ProxyHistory.Proofs.Query.Quoted

/-!
# What stands in quotes

Where a query has a WHERE after its FROM, a text in quotes behind that WHERE is opaque: whatever it
holds, the query is refused in the same way, or it has the same fields, the same source, the same
limit and the same conditions, but for the one condition that the quoted text is a part of.
-/

namespace ProxyHistory.Query

open Text (isBlank Blank Trimmed sameIgnoringCase)
open Condition (quoted)

/-! ## The text in front of WHERE -/

/-- A text in front of the WHERE that the conditions of a query stand behind. -/
structure Head where
  /-- The text. -/
  text : Text
  /-- The position of FROM. -/
  fromAt : Nat
  settled : Settled text
  first : (keywordPositions fromKeyword text).head? = some fromAt
  /-- No earlier WHERE follows FROM. -/
  whole : (keywordPositions whereKeyword text).find? (fromAt ≤ ·) = none

namespace Head

variable (head : Head) (tail : Text)

/-- The position of a LIMIT between FROM and WHERE. -/
def limitAt? : Option Nat :=
  (keywordPositions limitKeyword head.text).find? (head.fromAt ≤ ·)

/-- The fields that are selected, if SELECT stands at the given position. -/
def fields (selectAt : Nat) : List Text :=
  readFields ((⟨selectAt + selectKeyword.length, head.fromAt⟩ : Span).of head.text)

/-- The source. -/
def source : Text :=
  Text.trim ((⟨head.fromAt + fromKeyword.length, head.limitAt?.getD head.text.length⟩ : Span).of
    head.text)

/-- The conditions in the rest of the query. -/
def conditions : List Text :=
  if head.limitAt?.isSome then fragments (tail.drop whereKeyword.length) else tailConditions tail

/-- The limit, in front of WHERE or in the rest of the query. -/
def limit : Nat :=
  match head.limitAt? with
  | some position =>
      readLimit (Text.trim
        ((⟨position + limitKeyword.length, head.text.length⟩ : Span).of head.text))
  | none => tailLimit tail

/-- The clauses of a query, if SELECT stands at the given position. -/
def clauses (selectAt : Nat) : Clauses where
  selectAt := selectAt
  fromAt := head.fromAt
  whereAt? := some head.text.length
  limitAt? := head.limitAt?.or
    ((keywordPositions limitKeyword tail).head?.map (· + head.text.length))
  length := (head.text ++ tail).length

theorem fromAt_lt : head.fromAt < head.text.length :=
  lt_length_of_mem_keywordPositions isWord_fromKeyword.ne_nil (List.mem_of_head? head.first)

theorem head?_append {word : Text} (isWord : IsWord word) :
    (keywordPositions word (head.text ++ tail)).head? =
      (keywordPositions word head.text).head?.or
        ((keywordPositions word tail).head?.map (· + head.text.length)) := by
  rw [keywordPositions_append isWord head.settled, List.head?_append, List.head?_map]

theorem find?_append {word : Text} (isWord : IsWord word) :
    (keywordPositions word (head.text ++ tail)).find? (head.fromAt ≤ ·) =
      ((keywordPositions word head.text).find? (head.fromAt ≤ ·)).or
        ((keywordPositions word tail).head?.map (· + head.text.length)) := by
  have behind : ((keywordPositions word tail).map (· + head.text.length)).find?
      (head.fromAt ≤ ·) = (keywordPositions word tail).head?.map (· + head.text.length) := by
    have from_lt := head.fromAt_lt
    cases keywordPositions word tail with
    | nil => rfl
    | cons position positions =>
        have after : head.fromAt ≤ position + head.text.length := by omega
        rw [List.map_cons, List.find?_cons_of_pos (by simpa using after)]
        rfl
  rw [keywordPositions_append isWord head.settled, List.find?_append, behind]

variable {tail} (starts : (keywordPositions whereKeyword tail).head? = some 0)

include starts

theorem find?_where :
    (keywordPositions whereKeyword (head.text ++ tail)).find? (head.fromAt ≤ ·) =
      some head.text.length := by
  rw [head.find?_append tail isWord_whereKeyword, head.whole, starts, Option.none_or,
    Option.map_some, Nat.zero_add]

theorem locate_append :
    Clauses.locate (head.text ++ tail) =
      match (keywordPositions selectKeyword head.text).head? with
      | some selectAt =>
          if selectAt < head.fromAt then .ok (head.clauses tail selectAt)
          else .error (.malformed .selectAfterFrom)
      | none =>
          .error (.malformed
            (if (keywordPositions selectKeyword tail).isEmpty then .missingSelectOrFrom
            else .selectAfterFrom)) := by
  have from_lt := head.fromAt_lt
  have from_eq : (keywordPositions fromKeyword (head.text ++ tail)).head? = some head.fromAt := by
    rw [head.head?_append tail isWord_fromKeyword, head.first, Option.some_or]
  rw [Clauses.locate, head.head?_append tail isWord_selectKeyword, from_eq]
  cases (keywordPositions selectKeyword head.text).head? with
  | some selectAt =>
      simp only [Option.some_or, head.find?_where starts,
        head.find?_append tail isWord_limitKeyword]
      rfl
  | none =>
      cases keywordPositions selectKeyword tail with
      | nil => rfl
      | cons position positions =>
          have behind : ¬ position + head.text.length < head.fromAt := by omega
          simp only [List.head?_cons, Option.map_some, Option.none_or, if_neg behind,
            List.isEmpty_cons, if_neg Bool.false_ne_true]

omit starts

theorem limitAt?_lt : ∀ position ∈ head.limitAt?, position < head.text.length := by
  intro position found
  exact lt_length_of_mem_keywordPositions isWord_limitKeyword.ne_nil (List.mem_of_find?_eq_some found)

theorem source_within : head.limitAt?.getD head.text.length ≤ head.text.length := by
  cases limit_eq : head.limitAt? with
  | some position => exact Nat.le_of_lt (head.limitAt?_lt position limit_eq)
  | none => exact Nat.le_refl _

variable (tail)

theorem sourceSpan_clauses (selectAt : Nat) :
    (head.clauses tail selectAt).sourceSpan =
      ⟨head.fromAt + fromKeyword.length, head.limitAt?.getD head.text.length⟩ := by
  have stop_eq : min head.text.length ((head.clauses tail selectAt).limitAt?.getD
      (head.text ++ tail).length) = head.limitAt?.getD head.text.length := by
    rw [clauses]
    cases limit_eq : head.limitAt? with
    | some position => exact Nat.min_eq_right (Nat.le_of_lt (head.limitAt?_lt position limit_eq))
    | none =>
        refine Nat.min_eq_left ?_
        cases (keywordPositions limitKeyword tail).head? with
        | none => simp
        | some position => simp
  rw [Clauses.sourceSpan, ← stop_eq]
  rfl

variable {tail}

theorem behind_clauses (starts : (keywordPositions whereKeyword tail).head? = some 0)
    (unlimited : head.limitAt? = none) (selectAt : Nat) :
    (head.clauses tail selectAt).Behind head.text tail where
  whereAt := by
    rw [Clauses.ofTail, starts, clauses, Option.map_some, Nat.zero_add]
  limitAt := by
    rw [Clauses.ofTail, clauses, unlimited, Option.none_or]
  length := rfl

theorem conditions_clauses (starts : (keywordPositions whereKeyword tail).head? = some 0)
    (selectAt : Nat) :
    ((head.clauses tail selectAt).conditionSpan?.map fun span =>
      fragments (span.of (head.text ++ tail))).getD [] = head.conditions tail := by
  cases limit_eq : head.limitAt? with
  | none =>
      rw [(head.behind_clauses starts limit_eq selectAt).conditions, conditions, limit_eq]
      rfl
  | some position =>
      have before : ¬ head.text.length < position :=
        Nat.not_lt.mpr (Nat.le_of_lt (head.limitAt?_lt position limit_eq))
      have span_eq : (head.clauses tail selectAt).conditionSpan? =
          some (Span.shift head.text.length ⟨whereKeyword.length, tail.length⟩) := by
        simp [Clauses.conditionSpan?, clauses, limit_eq, Clauses.stopBefore, Option.filter, before,
          Span.shift, Nat.add_comm]
      rw [span_eq, Option.map_some, Option.getD_some, Span.of_shift, conditions, limit_eq, Span.of,
        List.take_length]
      rfl

theorem limit_clauses (starts : (keywordPositions whereKeyword tail).head? = some 0)
    (selectAt : Nat) :
    ((head.clauses tail selectAt).limitSpan?.map fun span =>
      readLimit (Text.trim (span.of (head.text ++ tail)))).getD 0 = head.limit tail := by
  cases limit_eq : head.limitAt? with
  | none =>
      rw [(head.behind_clauses starts limit_eq selectAt).limit, limit, limit_eq]
  | some position =>
      have before := head.limitAt?_lt position limit_eq
      have span_eq : (head.clauses tail selectAt).limitSpan? =
          some ⟨position + limitKeyword.length, head.text.length⟩ := by
        simp [Clauses.limitSpan?, clauses, limit_eq, Clauses.stopBefore, Option.filter, before]
      rw [span_eq, Option.map_some, Option.getD_some, Span.of_left (Nat.le_refl _), limit, limit_eq]

/-- How a query is read depends on the text in front of WHERE, and for the conditions and the limit
on the rest. -/
theorem parse_append (starts : (keywordPositions whereKeyword tail).head? = some 0)
    (trimmed : Text.trim (head.text ++ tail) = head.text ++ tail) :
    parse (head.text ++ tail) =
      match (keywordPositions selectKeyword head.text).head? with
      | some selectAt =>
          if selectAt < head.fromAt then
            if (head.fields selectAt).isEmpty then .error (.malformed .noFields)
            else if head.source.isEmpty then .error (.malformed .missingSource)
            else
              .ok {
                fields := head.fields selectAt
                source := head.source
                conditions := head.conditions tail
                limit := head.limit tail }
          else .error (.malformed .selectAfterFrom)
      | none =>
          .error (.malformed
            (if (keywordPositions selectKeyword tail).isEmpty then .missingSelectOrFrom
            else .selectAfterFrom)) := by
  rw [parse, trimmed, head.locate_append starts]
  cases (keywordPositions selectKeyword head.text).head? with
  | none => rfl
  | some selectAt =>
      dsimp only
      split
      · have fields_eq : readFields ((head.clauses tail selectAt).fieldSpan.of (head.text ++ tail)) =
            head.fields selectAt :=
          congrArg readFields (Span.of_left (Nat.le_of_lt head.fromAt_lt) tail)
        have source_eq : Text.trim ((head.clauses tail selectAt).sourceSpan.of (head.text ++ tail)) =
            head.source := by
          rw [head.sourceSpan_clauses, Span.of_left head.source_within, source]
        simp only [bind, Except.bind, pure, Except.pure, fields_eq, source_eq,
          head.conditions_clauses starts, head.limit_clauses starts]
        rfl
      · rfl

end Head

/-! ## Where a quoted text may stand -/

/-- The text holds a WHERE with a blank behind it, after its first FROM. -/
def HoldsWhere (front : Text) : Prop :=
  ∃ fromAt whereAt, (keywordPositions fromKeyword front).head? = some fromAt ∧ fromAt < whereAt ∧
    whereAt ∈ keywordPositions whereKeyword front ∧
    ∃ c, front[whereAt + whereKeyword.length]? = some c ∧ isBlank c = true

theorem HoldsWhere.of_blank_append {blanks front : Text} (blank : Blank blanks)
    (holds : HoldsWhere (blanks ++ front)) : HoldsWhere front := by
  obtain ⟨fromAt, whereAt, first, from_lt, member, c, behind, isBlank⟩ := holds
  rw [keywordPositions_blank_append isWord_fromKeyword blank, List.head?_map,
    Option.map_eq_some_iff] at first
  rw [keywordPositions_blank_append isWord_whereKeyword blank, List.mem_map] at member
  obtain ⟨fromAt, first, rfl⟩ := first
  obtain ⟨whereAt, member, rfl⟩ := member
  refine ⟨fromAt, whereAt, first, Nat.lt_of_add_lt_add_right from_lt, member, c, ?_, isBlank⟩
  rw [List.getElem?_append_right (by omega)] at behind
  rw [← behind]
  congr 1
  omega

/-- The first WHERE after FROM parts the text, and a blank follows it. -/
theorem HoldsWhere.exists_head {front : Text} (holds : HoldsWhere front) :
    ∃ (head : Head) (written clause : Text), front = head.text ++ (written ++ clause) ∧
      sameIgnoringCase written whereKeyword = true ∧ StartsBlank clause ∧ clause ≠ [] := by
  obtain ⟨fromAt, whereAt, first, from_lt, member, c, behind, -⟩ := holds
  obtain ⟨position, found⟩ : ∃ position,
      (keywordPositions whereKeyword front).find? (fromAt ≤ ·) = some position := by
    rw [← Option.isSome_iff_exists, List.find?_isSome]
    exact ⟨whereAt, member, decide_eq_true (Nat.le_of_lt from_lt)⟩
  obtain ⟨text, written, clause, rfl, rfl, settled, same, starts⟩ :=
    (mem_occurrences_iff isWord_whereKeyword.ne_nil).mp (List.mem_of_find?_eq_some found)
  have from_le : fromAt ≤ text.length := of_decide_eq_true (List.find?_some found :)
  have written_isWord := isWord_whereKeyword.of_same same
  have written_pos := List.length_pos_iff.mpr written_isWord.ne_nil
  have inText : (keywordPositions fromKeyword text).head? = some fromAt := by
    rw [keywordPositions_append isWord_fromKeyword settled,
      keywordPositions_word_append isWord_fromKeyword written_isWord starts,
      not_same_of_same same (by decide), List.head?_append] at first
    cases inText : (keywordPositions fromKeyword text).head? with
    | some earlier => rwa [inText, Option.some_or] at first
    | none =>
        simp only [inText, Option.none_or, Bool.false_eq_true, if_false, List.nil_append,
          List.head?_map, Option.map_map, Option.map_eq_some_iff, Function.comp_apply] at first
        obtain ⟨later, -, from_eq⟩ := first
        omega
  have whole : (keywordPositions whereKeyword text).find? (fromAt ≤ ·) = none := by
    rw [keywordPositions_append isWord_whereKeyword settled, List.find?_append] at found
    cases inText : (keywordPositions whereKeyword text).find? (fromAt ≤ ·) with
    | none => rfl
    | some earlier =>
        rw [inText, Option.some_or, Option.some_inj] at found
        have before := lt_length_of_mem_keywordPositions isWord_whereKeyword.ne_nil
          (List.mem_of_find?_eq_some inText)
        omega
  refine ⟨⟨text, fromAt, settled, inText, whole⟩, written, clause, rfl, same, starts, ?_⟩
  rintro rfl
  -- Otherwise the WHERE with the blank behind it stands in front of the first one.
  have within := (List.getElem?_eq_some_iff.mp behind).1
  rw [List.append_nil, List.length_append, Text.length_eq_of_same same] at within
  rw [keywordPositions_append isWord_whereKeyword settled, List.mem_append] at member
  rcases member with earlier | later
  · exact List.find?_eq_none.mp whole whereAt earlier (decide_eq_true (Nat.le_of_lt from_lt))
  · obtain ⟨offset, -, rfl⟩ := List.mem_map.mp later
    omega

section Quoted

variable {quote : Char} (isQuote : isQuote quote) {written clause : Text}
  (same : sameIgnoringCase written whereKeyword = true) (starts : StartsBlank clause)
  (ne_nil : clause ≠ []) (closed : Closed clause) (back : Text)

include isQuote same starts ne_nil closed

/-- The conditions and the limit of a query with a quoted text behind WHERE. -/
theorem Head.exists_template (head : Head) :
    ∃ (template : Template) (limit : Nat), template.Fits clause back ∧
      ∀ value, quote ∉ value →
        head.conditions (written ++ (clause ++ (quoted quote value ++ back))) =
            template.fill quote value ∧
          head.limit (written ++ (clause ++ (quoted quote value ++ back))) = limit := by
  cases limit_eq : head.limitAt? with
  | none =>
      simp only [conditions, limit, limit_eq]
      exact exists_tail_quoted isQuote same starts ne_nil closed back
  | some position =>
      obtain ⟨template, fits, fragments_eq⟩ := exists_fragments_quoted isQuote closed back
      refine ⟨template, head.limit [], fits, fun value unclosed => ⟨?_, ?_⟩⟩
      · rw [conditions, limit_eq, ← Text.length_eq_of_same same, List.drop_left,
          ← fragments_eq value unclosed]
        rfl
      · simp only [limit, limit_eq]

theorem exists_isEmpty_select :
    ∃ absent : Bool, ∀ value, quote ∉ value →
      (keywordPositions selectKeyword
        (written ++ (clause ++ (quoted quote value ++ back)))).isEmpty = absent := by
  refine ⟨(keywordPositions selectKeyword (clause ++ [quote])).isEmpty &&
    (occurrences selectKeyword Scan.afterQuote back).isEmpty, fun value unclosed => ?_⟩
  rw [keywordPositions_word_append isWord_selectKeyword (isWord_whereKeyword.of_same same)
      (starts.append_of_ne_nil ne_nil _), not_same_of_same same (by decide),
    keywordPositions_quoted isWord_selectKeyword isQuote closed unclosed]
  rw [Bool.eq_iff_iff]
  simp [List.isEmpty_iff]

/-- A query whose WHERE follows a given text is read in one way for all that may stand between the
quotes. -/
theorem Head.exists_parse_quoted (head : Head)
    (trimmed : ∀ value,
      Text.trim (head.text ++ (written ++ (clause ++ (quoted quote value ++ back)))) =
        head.text ++ (written ++ (clause ++ (quoted quote value ++ back)))) :
    (∃ error, ∀ value, quote ∉ value →
        parse (head.text ++ (written ++ (clause ++ (quoted quote value ++ back)))) =
          .error error) ∨
      ∃ (fields : List Text) (source : Text) (template : Template) (limit : Nat),
        template.Fits clause back ∧
          ∀ value, quote ∉ value →
            parse (head.text ++ (written ++ (clause ++ (quoted quote value ++ back)))) =
              .ok { fields, source, conditions := template.fill quote value, limit } := by
  have read (value : Text) := head.parse_append
    (head?_keywordPositions_word isWord_whereKeyword same
      (starts.append_of_ne_nil ne_nil (quoted quote value ++ back)))
    (trimmed value)
  cases select_eq : (keywordPositions selectKeyword head.text).head? with
  | none =>
      obtain ⟨absent, absent_eq⟩ := exists_isEmpty_select isQuote same starts ne_nil closed back
      refine .inl ⟨.malformed (if absent then .missingSelectOrFrom else .selectAfterFrom),
        fun value unclosed => ?_⟩
      rw [read, select_eq, ← absent_eq value unclosed]
  | some selectAt =>
      simp only [select_eq] at read
      by_cases before : selectAt < head.fromAt
      case neg => exact .inl ⟨_, fun value _ => by rw [read, if_neg before]⟩
      by_cases unselected : (head.fields selectAt).isEmpty
      case pos => exact .inl ⟨_, fun value _ => by rw [read, if_pos before, if_pos unselected]⟩
      by_cases unnamed : head.source.isEmpty
      case pos =>
        exact .inl ⟨_, fun value _ => by
          rw [read, if_pos before, if_neg unselected, if_pos unnamed]⟩
      obtain ⟨template, limit, fits, template_eq⟩ :=
        head.exists_template isQuote same starts ne_nil closed back
      refine .inr ⟨head.fields selectAt, head.source, template, limit, fits,
        fun value unclosed => ?_⟩
      obtain ⟨conditions_eq, limit_eq⟩ := template_eq value unclosed
      rw [read, if_pos before, if_neg unselected, if_neg unnamed, conditions_eq, limit_eq]

end Quoted

theorem parse_trim (text : Text) : parse (Text.trim text) = parse text := by
  rw [parse, Text.trim_trim, ← parse]

theorem exists_parse_quoted {quote : Char} (isQuote : isQuote quote) {front : Text}
    (holds : HoldsWhere front) (closed : Closed front) (back : Text) :
    (∃ error, ∀ value, quote ∉ value →
        parse (front ++ (quoted quote value ++ back)) = .error error) ∨
      ∃ (fields : List Text) (source : Text) (template : Template) (limit : Nat),
        template.Fits front back ∧
          ∀ value, quote ∉ value →
            parse (front ++ (quoted quote value ++ back)) =
              .ok { fields, source, conditions := template.fill quote value, limit } := by
  -- The query without the blanks around it is parted in front of WHERE.
  obtain ⟨blanks, blank, front_eq⟩ :
      ∃ blanks, Blank blanks ∧ blanks ++ Text.trimStart front = front :=
    ⟨front.takeWhile isBlank, fun c member => List.mem_takeWhile_imp member,
      List.takeWhile_append_dropWhile⟩
  rw [← front_eq, closed_plain_append (plain_of_blank blank)] at closed
  rw [← front_eq] at holds
  obtain ⟨head, written, clause, start_eq, same, starts, ne_nil⟩ :=
    (holds.of_blank_append blank).exists_head
  have clause_closed : Closed clause := by
    have plain := (isWord_whereKeyword.of_same same).plain
    rw [start_eq, Closed, Scan.run_append, head.settled] at closed
    exact (closed_plain_append (fun c member => (plain c member).2) clause).mp closed
  have clause_suffix : clause <:+ front := by
    rw [← front_eq, start_eq]
    exact ((List.suffix_append written clause).trans (List.suffix_append head.text _)).trans
      (List.suffix_append blanks _)
  have trim_eq (value : Text) :
      head.text ++ (written ++ (clause ++ (quoted quote value ++ Text.trimEnd back))) =
        Text.trim (front ++ (quoted quote value ++ back)) := by
    rw [trim_quoted isQuote, start_eq, List.append_assoc, List.append_assoc]
  have parse_eq := head.exists_parse_quoted isQuote same starts ne_nil clause_closed
    (Text.trimEnd back) (fun value => by rw [trim_eq, Text.trim_trim])
  simp only [trim_eq, parse_trim] at parse_eq
  rcases parse_eq with refused | ⟨fields, source, template, limit, fits, read⟩
  · exact .inl refused
  · exact .inr ⟨fields, source, template, limit,
      fits.mono clause_suffix (List.rdropWhile_prefix isBlank back), read⟩

/-- What stands in quotes behind WHERE does not change how a query is read: with two values between
the quotes it is refused for the same reason, or it has the same fields, the same source and the same
limit, and conditions of which at most one differs, by the value in it. -/
theorem parse_quoted_cases {quote : Char} (isQuote : isQuote quote) {front : Text}
    (holds : HoldsWhere front) (closed : Closed front) {first second : Text}
    (first_unclosed : quote ∉ first) (second_unclosed : quote ∉ second) (back : Text) :
    (∃ error, parse (front ++ (quoted quote first ++ back)) = .error error ∧
        parse (front ++ (quoted quote second ++ back)) = .error error) ∨
      ∃ (fields : List Text) (source : Text) (template : Template) (limit : Nat),
        template.Fits front back ∧
          parse (front ++ (quoted quote first ++ back)) =
            .ok { fields, source, conditions := template.fill quote first, limit } ∧
          parse (front ++ (quoted quote second ++ back)) =
            .ok { fields, source, conditions := template.fill quote second, limit } := by
  rcases exists_parse_quoted isQuote holds closed back with
    ⟨error, refused⟩ | ⟨fields, source, template, limit, fits, read⟩
  · exact .inl ⟨error, refused first first_unclosed, refused second second_unclosed⟩
  · exact .inr ⟨fields, source, template, limit, fits, read first first_unclosed,
      read second second_unclosed⟩

/-- Keywords, joining words, commas and the other quote change nothing within quotes. -/
theorem parse_quoted_cases_keywords :
    let front := "SELECT url FROM proxy WHERE method = GET and path like ".toList
    let back := " and host = a LIMIT 3".toList
    let first := "where x and y, limit 5 \"".toList
    let second := "z".toList
    (isQuote '\'' ∧ HoldsWhere front ∧ Closed front ∧ '\'' ∉ first ∧ '\'' ∉ second) ∧
      ((∃ error, parse (front ++ (quoted '\'' first ++ back)) = .error error ∧
          parse (front ++ (quoted '\'' second ++ back)) = .error error) ∨
        ∃ (fields : List Text) (source : Text) (template : Template) (limit : Nat),
          template.Fits front back ∧
            parse (front ++ (quoted '\'' first ++ back)) =
              .ok { fields, source, conditions := template.fill '\'' first, limit } ∧
            parse (front ++ (quoted '\'' second ++ back)) =
              .ok { fields, source, conditions := template.fill '\'' second, limit }) := by
  intro front back first second
  have holds : HoldsWhere front := ⟨11, 22, by decide, by decide, by decide, ' ', by decide, rfl⟩
  have closed : Closed front := by decide
  have first_unclosed : '\'' ∉ first := by decide
  have second_unclosed : '\'' ∉ second := by decide
  exact ⟨⟨rfl, holds, closed, first_unclosed, second_unclosed⟩,
    parse_quoted_cases rfl holds closed first_unclosed second_unclosed back⟩

end ProxyHistory.Query
