import ProxyHistory.Proofs.Query.Fragments
import ProxyHistory.Proofs.Steps
import ProxyHistory.Query.Basic

/-!
# Clauses

How a query text falls into its clauses. The header, from SELECT to the source, is read the same way
whatever follows it, and the clauses behind it are read as if nothing stood in front of them.
-/

namespace ProxyHistory.Query

open Text (isBlank Blank sameIgnoringCase)

theorem isWord_selectKeyword : IsWord selectKeyword := by decide

theorem isWord_fromKeyword : IsWord fromKeyword := by decide

theorem isWord_whereKeyword : IsWord whereKeyword := by decide

theorem isWord_limitKeyword : IsWord limitKeyword := by decide

/-! ## The clauses that are found -/

/-- The clauses of a text: its first SELECT, its first FROM behind that, and the first WHERE and the
first LIMIT from FROM on. -/
structure Clauses.Located (text : Text) (clauses : Clauses) : Prop where
  selectAt : (keywordPositions selectKeyword text).head? = some clauses.selectAt
  fromAt : (keywordPositions fromKeyword text).head? = some clauses.fromAt
  ordered : clauses.selectAt < clauses.fromAt
  whereAt : clauses.whereAt? = (keywordPositions whereKeyword text).find? (clauses.fromAt ≤ ·)
  limitAt : clauses.limitAt? = (keywordPositions limitKeyword text).find? (clauses.fromAt ≤ ·)
  length : clauses.length = text.length

theorem Clauses.locate_eq_ok_iff {text : Text} {clauses : Clauses} :
    locate text = .ok clauses ↔ clauses.Located text := by
  constructor
  · intro located
    unfold locate at located
    split at located
    · rename_i selectAt fromAt select_eq from_eq
      split at located
      · rename_i ordered
        cases located
        exact ⟨select_eq, from_eq, ordered, rfl, rfl, rfl⟩
      · cases located
    · cases located
  · rintro ⟨select_eq, from_eq, ordered, where_eq, limit_eq, length_eq⟩
    simp only [locate, select_eq, from_eq, if_pos ordered, ← where_eq, ← limit_eq, ← length_eq]

section Located

variable {text : Text} {clauses : Clauses} (located : clauses.Located text)

include located

theorem Clauses.Located.mem_select : clauses.selectAt ∈ keywordPositions selectKeyword text :=
  List.mem_of_head? located.selectAt

theorem Clauses.Located.mem_from : clauses.fromAt ∈ keywordPositions fromKeyword text :=
  List.mem_of_head? located.fromAt

theorem Clauses.Located.mem_where :
    ∀ position ∈ clauses.whereAt?, position ∈ keywordPositions whereKeyword text :=
  fun _ found => List.mem_of_find?_eq_some (located.whereAt ▸ found)

theorem Clauses.Located.mem_limit :
    ∀ position ∈ clauses.limitAt?, position ∈ keywordPositions limitKeyword text :=
  fun _ found => List.mem_of_find?_eq_some (located.limitAt ▸ found)

theorem Clauses.Located.fromAt_lt : clauses.fromAt < text.length :=
  lt_length_of_mem_keywordPositions isWord_fromKeyword.ne_nil located.mem_from

theorem Clauses.Located.whereAt_lt : ∀ position ∈ clauses.whereAt?, position < text.length :=
  fun position found =>
    lt_length_of_mem_keywordPositions isWord_whereKeyword.ne_nil (located.mem_where position found)

end Located

/-- A text is read as a query if its clauses are found and neither its fields nor its source are
missing. -/
theorem parse_eq_ok_iff {input : Text} {query : Query} :
    parse input = .ok query ↔
      ∃ clauses : Clauses, clauses.Located (Text.trim input) ∧
        readFields (clauses.fieldSpan.of (Text.trim input)) ≠ [] ∧
        Text.trim (clauses.sourceSpan.of (Text.trim input)) ≠ [] ∧
        query =
          { fields := readFields (clauses.fieldSpan.of (Text.trim input))
            source := Text.trim (clauses.sourceSpan.of (Text.trim input))
            conditions := (clauses.conditionSpan?.map fun span =>
              fragments (span.of (Text.trim input))).getD []
            limit := (clauses.limitSpan?.map fun span =>
              readLimit (Text.trim (span.of (Text.trim input)))).getD 0 } := by
  constructor
  · intro parsed
    obtain ⟨clauses, located, parsed⟩ := exists_of_bind_eq_ok parsed
    dsimp only at parsed
    split at parsed
    · cases parsed
    · rename_i selects
      split at parsed
      · cases parsed
      · rename_i named
        cases parsed
        rw [List.isEmpty_iff] at selects named
        exact ⟨clauses, Clauses.locate_eq_ok_iff.mp located, selects, named, rfl⟩
  · rintro ⟨clauses, located, selects, named, rfl⟩
    rw [parse, Clauses.locate_eq_ok_iff.mpr located]
    simp only [bind, Except.bind, pure, Except.pure, List.isEmpty_iff, selects, named, if_false]

/-! ## Clauses behind the header -/

/-- The clauses of a text that starts behind the source of a query. -/
def Clauses.ofTail (tail : Text) : Clauses where
  selectAt := 0
  fromAt := 0
  whereAt? := (keywordPositions whereKeyword tail).head?
  limitAt? := (keywordPositions limitKeyword tail).head?
  length := tail.length

/-- The conditions in a text that starts behind the source of a query. -/
def tailConditions (tail : Text) : List Text :=
  ((Clauses.ofTail tail).conditionSpan?.map fun span => fragments (span.of tail)).getD []

/-- The limit in a text that starts behind the source of a query. -/
def tailLimit (tail : Text) : Nat :=
  ((Clauses.ofTail tail).limitSpan?.map fun span => readLimit (Text.trim (span.of tail))).getD 0

/-- A text starts with WHERE or with LIMIT. -/
def StartsClause (tail : Text) : Prop :=
  (keywordPositions whereKeyword tail).head? = some 0 ∨
    (keywordPositions limitKeyword tail).head? = some 0

variable {whereWritten limitWritten condition literal : Text}

theorem head?_keywordPositions_word {word written rest : Text} (isWord : IsWord word)
    (same : sameIgnoringCase written word = true) (starts : StartsBlank rest) :
    (keywordPositions word (written ++ rest)).head? = some 0 := by
  rw [keywordPositions_word_append isWord (isWord.of_same same) starts, if_pos same]
  rfl

theorem keywordPositions_whereWritten {rest : Text}
    (whereSame : sameIgnoringCase whereWritten whereKeyword = true) (starts : StartsBlank rest) :
    keywordPositions limitKeyword (whereWritten ++ rest) =
      (keywordPositions limitKeyword rest).map (· + whereWritten.length) := by
  rw [keywordPositions_word_append isWord_limitKeyword (isWord_whereKeyword.of_same whereSame)
    starts, not_same_of_same whereSame (by decide)]
  rfl

theorem keywordPositions_limitWritten {rest : Text}
    (limitSame : sameIgnoringCase limitWritten limitKeyword = true) (starts : StartsBlank rest) :
    keywordPositions whereKeyword (limitWritten ++ rest) =
      (keywordPositions whereKeyword rest).map (· + limitWritten.length) := by
  rw [keywordPositions_word_append isWord_whereKeyword (isWord_limitKeyword.of_same limitSame)
    starts, not_same_of_same limitSame (by decide)]
  rfl

theorem Clauses.of_first (clauses : Clauses) {first : Text} (ne_nil : first ≠ [])
    (middle second rest : Text) :
    (⟨first.length, clauses.stopBefore 0 (some (first.length + middle.length))⟩ : Span).of
      (first ++ (middle ++ (second ++ rest))) = middle := by
  have first_pos : 0 < first.length + middle.length :=
    Nat.lt_add_right _ (List.length_pos_iff.mpr ne_nil)
  have stop_eq : clauses.stopBefore 0 (some (first.length + middle.length)) =
      first.length + middle.length := by
    simp [Clauses.stopBefore, Option.filter, first_pos]
  rw [stop_eq, Span.of_middle]

theorem Clauses.of_second {clauses : Clauses} {first middle second rest : Text}
    (length_eq : clauses.length = (first ++ (middle ++ (second ++ rest))).length) :
    (⟨first.length + middle.length + second.length,
        clauses.stopBefore (first.length + middle.length) (some 0)⟩ : Span).of
      (first ++ (middle ++ (second ++ rest))) = rest := by
  have stop_eq : clauses.stopBefore (first.length + middle.length) (some 0) =
      (first ++ (middle ++ (second ++ rest))).length := by
    simp [Clauses.stopBefore, Option.filter, length_eq]
  have start_eq : first.length + middle.length + second.length =
      (first ++ middle ++ second).length := by
    simp only [List.length_append]
  have text_eq : first ++ (middle ++ (second ++ rest)) = (first ++ middle ++ second) ++ rest := by
    simp only [List.append_assoc]
  rw [stop_eq, start_eq, text_eq, Span.of_rest]

theorem tail_of_where (whereSame : sameIgnoringCase whereWritten whereKeyword = true)
    (condition_starts : StartsBlank condition)
    (unlimited : keywordPositions limitKeyword condition = []) :
    tailConditions (whereWritten ++ condition) = fragments condition ∧
      tailLimit (whereWritten ++ condition) = 0 := by
  have where_at := head?_keywordPositions_word isWord_whereKeyword whereSame condition_starts
  have limit_at : (keywordPositions limitKeyword (whereWritten ++ condition)).head? = none := by
    rw [keywordPositions_whereWritten whereSame condition_starts, unlimited]
    rfl
  have clauses_eq : Clauses.ofTail (whereWritten ++ condition) =
      ⟨0, 0, some 0, none, (whereWritten ++ condition).length⟩ := by
    rw [Clauses.ofTail, where_at, limit_at]
  constructor
  · have span_eq : (Clauses.ofTail (whereWritten ++ condition)).conditionSpan? =
        some ⟨whereWritten.length, (whereWritten ++ condition).length⟩ := by
      rw [clauses_eq, Text.length_eq_of_same whereSame]
      rfl
    rw [tailConditions, span_eq, Option.map_some, Option.getD_some, Span.of_rest]
  · rw [tailLimit, clauses_eq]
    rfl

theorem tail_of_where_limit (whereSame : sameIgnoringCase whereWritten whereKeyword = true)
    (limitSame : sameIgnoringCase limitWritten limitKeyword = true)
    (condition_starts : StartsBlank condition) (condition_settled : Settled condition)
    (condition_ne_nil : condition ≠ []) (literal_starts : StartsBlank literal)
    (unlimited : keywordPositions limitKeyword condition = []) :
    tailConditions (whereWritten ++ (condition ++ (limitWritten ++ literal))) =
        fragments condition ∧
      tailLimit (whereWritten ++ (condition ++ (limitWritten ++ literal))) =
        readLimit (Text.trim literal) := by
  have rest_starts := condition_starts.append_of_ne_nil condition_ne_nil (limitWritten ++ literal)
  have where_at := head?_keywordPositions_word isWord_whereKeyword whereSame rest_starts
  have limit_at :
      (keywordPositions limitKeyword
        (whereWritten ++ (condition ++ (limitWritten ++ literal)))).head? =
        some (whereWritten.length + condition.length) := by
    have behind := head?_keywordPositions_word isWord_limitKeyword limitSame literal_starts
    rw [keywordPositions_whereWritten whereSame rest_starts,
      keywordPositions_append isWord_limitKeyword condition_settled, unlimited, List.nil_append,
      List.head?_map, List.head?_map, behind]
    simp [Nat.add_comm]
  have conditionSpan_eq :
      (Clauses.ofTail (whereWritten ++ (condition ++ (limitWritten ++ literal)))).conditionSpan? =
        some ⟨whereWritten.length,
          (Clauses.ofTail (whereWritten ++ (condition ++ (limitWritten ++ literal)))).stopBefore 0
            (some (whereWritten.length + condition.length))⟩ := by
    rw [Clauses.conditionSpan?, ← limit_at, Text.length_eq_of_same whereSame]
    simp [Clauses.ofTail, where_at]
  have limitSpan_eq :
      (Clauses.ofTail (whereWritten ++ (condition ++ (limitWritten ++ literal)))).limitSpan? =
        some ⟨whereWritten.length + condition.length + limitWritten.length,
          (Clauses.ofTail (whereWritten ++ (condition ++ (limitWritten ++ literal)))).stopBefore
            (whereWritten.length + condition.length) (some 0)⟩ := by
    rw [Clauses.limitSpan?, ← where_at, Text.length_eq_of_same limitSame]
    simp [Clauses.ofTail, limit_at]
  constructor
  · rw [tailConditions, conditionSpan_eq, Option.map_some, Option.getD_some,
      Clauses.of_first _ (isWord_whereKeyword.of_same whereSame).ne_nil]
  · rw [tailLimit, limitSpan_eq, Option.map_some, Option.getD_some, Clauses.of_second rfl]

theorem tail_of_limit_where (whereSame : sameIgnoringCase whereWritten whereKeyword = true)
    (limitSame : sameIgnoringCase limitWritten limitKeyword = true)
    (condition_starts : StartsBlank condition) (literal_starts : StartsBlank literal)
    (literal_settled : Settled literal) (literal_ne_nil : literal ≠ [])
    (unconditional : keywordPositions whereKeyword literal = []) :
    tailConditions (limitWritten ++ (literal ++ (whereWritten ++ condition))) =
        fragments condition ∧
      tailLimit (limitWritten ++ (literal ++ (whereWritten ++ condition))) =
        readLimit (Text.trim literal) := by
  have rest_starts := literal_starts.append_of_ne_nil literal_ne_nil (whereWritten ++ condition)
  have limit_at := head?_keywordPositions_word isWord_limitKeyword limitSame rest_starts
  have where_at :
      (keywordPositions whereKeyword
        (limitWritten ++ (literal ++ (whereWritten ++ condition)))).head? =
        some (limitWritten.length + literal.length) := by
    have behind := head?_keywordPositions_word isWord_whereKeyword whereSame condition_starts
    rw [keywordPositions_limitWritten limitSame rest_starts,
      keywordPositions_append isWord_whereKeyword literal_settled, unconditional, List.nil_append,
      List.head?_map, List.head?_map, behind]
    simp [Nat.add_comm]
  have limitSpan_eq :
      (Clauses.ofTail (limitWritten ++ (literal ++ (whereWritten ++ condition)))).limitSpan? =
        some ⟨limitWritten.length,
          (Clauses.ofTail (limitWritten ++ (literal ++ (whereWritten ++ condition)))).stopBefore 0
            (some (limitWritten.length + literal.length))⟩ := by
    rw [Clauses.limitSpan?, ← where_at, Text.length_eq_of_same limitSame]
    simp [Clauses.ofTail, limit_at]
  have conditionSpan_eq :
      (Clauses.ofTail (limitWritten ++ (literal ++ (whereWritten ++ condition)))).conditionSpan? =
        some ⟨limitWritten.length + literal.length + whereWritten.length,
          (Clauses.ofTail (limitWritten ++ (literal ++ (whereWritten ++ condition)))).stopBefore
            (limitWritten.length + literal.length) (some 0)⟩ := by
    rw [Clauses.conditionSpan?, ← limit_at, Text.length_eq_of_same whereSame]
    simp [Clauses.ofTail, where_at]
  constructor
  · rw [tailConditions, conditionSpan_eq, Option.map_some, Option.getD_some, Clauses.of_second rfl]
  · rw [tailLimit, limitSpan_eq, Option.map_some, Option.getD_some,
      Clauses.of_first _ (isWord_limitKeyword.of_same limitSame).ne_nil]

/-- What is read as conditions behind WHERE does not hold LIMIT, and leaves no quote open where a
limit is read behind it. -/
theorem exists_tailConditions_eq {rest : Text}
    (whereSame : sameIgnoringCase whereWritten whereKeyword = true) (starts : StartsBlank rest) :
    ∃ clause, tailConditions (whereWritten ++ rest) = fragments clause ∧
      keywordPositions limitKeyword clause = [] ∧
      (tailLimit (whereWritten ++ rest) ≠ 0 → Closed clause) := by
  cases positions : keywordPositions limitKeyword rest with
  | nil =>
      obtain ⟨conditions_eq, limit_eq⟩ := tail_of_where whereSame starts positions
      exact ⟨rest, conditions_eq, positions, fun limited => absurd limit_eq limited⟩
  | cons first later =>
      obtain ⟨clause, written, literal, rfl, -, settled, absent, same, literal_starts⟩ :=
        exists_of_keywordPositions_eq_cons isWord_limitKeyword positions
      obtain ⟨clause_starts, ne_nil⟩ := starts.of_word (isWord_limitKeyword.of_same same)
      obtain ⟨conditions_eq, -⟩ := tail_of_where_limit whereSame same clause_starts settled ne_nil
        literal_starts absent
      exact ⟨clause, conditions_eq, absent, fun _ => settled.closed⟩

/-! ## Clauses behind any text -/

section Behind

/-- The clauses of a whole text, as far as they stand behind a part of it, are those of the rest. -/
structure Clauses.Behind (front tail : Text) (clauses : Clauses) : Prop where
  whereAt : clauses.whereAt? = (Clauses.ofTail tail).whereAt?.map (· + front.length)
  limitAt : clauses.limitAt? = (Clauses.ofTail tail).limitAt?.map (· + front.length)
  length : clauses.length = (front ++ tail).length

variable {front tail : Text} {clauses : Clauses} (behind : clauses.Behind front tail)

include behind

theorem Clauses.Behind.stopBefore (position : Nat) (other? : Option Nat) :
    clauses.stopBefore (position + front.length) (other?.map (· + front.length)) =
      (Clauses.ofTail tail).stopBefore position other? + front.length := by
  have length_eq : clauses.length = (Clauses.ofTail tail).length + front.length := by
    rw [behind.length, List.length_append, Nat.add_comm]
    rfl
  cases other? with
  | none => simp [Clauses.stopBefore, length_eq]
  | some other =>
      by_cases later : position < other <;>
        simp [Clauses.stopBefore, Option.filter, length_eq, later]

theorem Clauses.Behind.conditionSpan? :
    clauses.conditionSpan? =
      (Clauses.ofTail tail).conditionSpan?.map (Span.shift front.length) := by
  rw [Clauses.conditionSpan?, behind.whereAt, behind.limitAt]
  cases where_eq : (Clauses.ofTail tail).whereAt? with
  | none => simp [Clauses.conditionSpan?, where_eq]
  | some position =>
      have stop_eq := behind.stopBefore position (Clauses.ofTail tail).limitAt?
      simp only [Clauses.conditionSpan?, where_eq, Option.map_some, Span.shift, stop_eq,
        Nat.add_right_comm position whereKeyword.length]

theorem Clauses.Behind.limitSpan? :
    clauses.limitSpan? = (Clauses.ofTail tail).limitSpan?.map (Span.shift front.length) := by
  rw [Clauses.limitSpan?, behind.whereAt, behind.limitAt]
  cases limit_eq : (Clauses.ofTail tail).limitAt? with
  | none => simp [Clauses.limitSpan?, limit_eq]
  | some position =>
      have stop_eq := behind.stopBefore position (Clauses.ofTail tail).whereAt?
      simp only [Clauses.limitSpan?, limit_eq, Option.map_some, Span.shift, stop_eq,
        Nat.add_right_comm position limitKeyword.length]

theorem Clauses.Behind.conditions :
    (clauses.conditionSpan?.map fun span => fragments (span.of (front ++ tail))).getD [] =
      tailConditions tail := by
  rw [behind.conditionSpan?, Option.map_map, tailConditions]
  congr 2
  funext span
  rw [Function.comp_apply, Span.of_shift]

theorem Clauses.Behind.limit :
    (clauses.limitSpan?.map fun span =>
      readLimit (Text.trim (span.of (front ++ tail)))).getD 0 = tailLimit tail := by
  rw [behind.limitSpan?, Option.map_map, tailLimit]
  congr 2
  funext span
  rw [Function.comp_apply, Span.of_shift]

end Behind

/-! ## The header -/

/-- A query text up to and including its source. -/
structure Header where
  /-- SELECT as written. -/
  selectWritten : Text
  /-- The list of fields with the blanks around it. -/
  list : Text
  /-- FROM as written. -/
  fromWritten : Text
  /-- The source with the blanks around it. -/
  name : Text
  selectSame : sameIgnoringCase selectWritten selectKeyword = true
  fromSame : sameIgnoringCase fromWritten fromKeyword = true
  list_starts : StartsBlank list
  list_ne_nil : list ≠ []
  list_settled : Settled list
  /-- The list does not hold FROM. -/
  list_whole : keywordPositions fromKeyword list = []
  name_starts : StartsBlank name
  name_ne_nil : name ≠ []
  name_settled : Settled name
  /-- The source holds neither of the clauses that may follow it. -/
  name_whole : keywordPositions whereKeyword name = [] ∧ keywordPositions limitKeyword name = []

namespace Header

/-- The written form of a header. -/
def text (header : Header) : Text :=
  header.selectWritten ++ (header.list ++ (header.fromWritten ++ header.name))

variable (header : Header) (tail : Text)

theorem front_settled : Settled (header.selectWritten ++ header.list) :=
  header.list_settled.word_append (isWord_selectKeyword.of_same header.selectSame)
    header.list_ne_nil

theorem back_settled : Settled (header.fromWritten ++ header.name) :=
  header.name_settled.word_append (isWord_fromKeyword.of_same header.fromSame) header.name_ne_nil

theorem append_eq :
    header.text ++ tail =
      (header.selectWritten ++ header.list) ++ ((header.fromWritten ++ header.name) ++ tail) := by
  simp only [text, List.append_assoc]

theorem head?_select :
    (keywordPositions selectKeyword (header.text ++ tail)).head? = some 0 := by
  rw [append_eq, List.append_assoc]
  exact head?_keywordPositions_word isWord_selectKeyword header.selectSame
    (header.list_starts.append_of_ne_nil header.list_ne_nil _)

theorem head?_from :
    (keywordPositions fromKeyword (header.text ++ tail)).head? =
      some (header.selectWritten ++ header.list).length := by
  have inFront : keywordPositions fromKeyword (header.selectWritten ++ header.list) = [] := by
    rw [keywordPositions_word_append isWord_fromKeyword
      (isWord_selectKeyword.of_same header.selectSame) header.list_starts, header.list_whole,
      not_same_of_same header.selectSame (by decide)]
    rfl
  have behind := head?_keywordPositions_word isWord_fromKeyword header.fromSame
    (header.name_starts.append_of_ne_nil header.name_ne_nil tail)
  rw [append_eq, keywordPositions_append isWord_fromKeyword header.front_settled, inFront,
    List.nil_append, List.head?_map, List.append_assoc, behind]
  simp

/-- From FROM on, a word that the source does not hold occurs first where the rest of the text holds
it first. -/
theorem find?_tail {word : Text} (isWord : IsWord word)
    (different : Text.asciiLower fromKeyword ≠ Text.asciiLower word)
    (whole : keywordPositions word header.name = []) :
    (keywordPositions word (header.text ++ tail)).find?
        ((header.selectWritten ++ header.list).length ≤ ·) =
      (keywordPositions word tail).head?.map (· + header.text.length) := by
  have inBack : keywordPositions word (header.fromWritten ++ header.name) = [] := by
    rw [keywordPositions_word_append isWord (isWord_fromKeyword.of_same header.fromSame)
      header.name_starts, whole, not_same_of_same header.fromSame different]
    rfl
  have inFront : (keywordPositions word (header.selectWritten ++ header.list)).find?
      ((header.selectWritten ++ header.list).length ≤ ·) = none := by
    rw [List.find?_eq_none]
    intro position member
    have := lt_length_of_mem_keywordPositions isWord.ne_nil member
    simpa using this
  have length_eq : header.text.length =
      (header.fromWritten ++ header.name).length +
        (header.selectWritten ++ header.list).length := by
    simp only [text, List.length_append]
    omega
  rw [append_eq, keywordPositions_append isWord header.front_settled,
    keywordPositions_append isWord header.back_settled, inBack, List.nil_append, List.map_map,
    List.find?_append, inFront, Option.none_or, List.find?_map, length_eq]
  cases keywordPositions word tail with
  | nil => rfl
  | cons position positions =>
      rw [List.find?_cons_of_pos]
      · simp only [List.head?_cons, Option.map_some, Function.comp_apply, Nat.add_assoc]
      · simp only [Function.comp_apply, decide_eq_true_eq]
        omega

/-- The clauses of a query text with the given rest: those of the rest, moved behind the header. -/
def clauses : Clauses where
  selectAt := 0
  fromAt := (header.selectWritten ++ header.list).length
  whereAt? := (Clauses.ofTail tail).whereAt?.map (· + header.text.length)
  limitAt? := (Clauses.ofTail tail).limitAt?.map (· + header.text.length)
  length := (header.text ++ tail).length

theorem locate_append : Clauses.locate (header.text ++ tail) = .ok (header.clauses tail) := by
  have from_pos : 0 < (header.selectWritten ++ header.list).length := by
    have := List.length_pos_iff.mpr header.list_ne_nil
    rw [List.length_append]
    omega
  simp only [Clauses.locate, head?_select, head?_from, if_pos from_pos, Clauses.ofTail, clauses,
    find?_tail header tail isWord_whereKeyword (by decide) header.name_whole.1,
    find?_tail header tail isWord_limitKeyword (by decide) header.name_whole.2]

theorem behind_clauses : (header.clauses tail).Behind header.text tail where
  whereAt := rfl
  limitAt := rfl
  length := rfl

theorem of_fieldSpan : (header.clauses tail).fieldSpan.of (header.text ++ tail) = header.list := by
  have span_eq : (header.clauses tail).fieldSpan =
      ⟨header.selectWritten.length, header.selectWritten.length + header.list.length⟩ := by
    rw [Text.length_eq_of_same header.selectSame, Clauses.fieldSpan, clauses, List.length_append,
      Text.length_eq_of_same header.selectSame, Nat.zero_add]
  rw [span_eq, append_eq, List.append_assoc, Span.of_middle]

/-- The source ends where the first clause behind it starts. -/
theorem of_sourceSpan (starts : StartsClause tail) :
    (header.clauses tail).sourceSpan.of (header.text ++ tail) = header.name := by
  have at_least (position? : Option Nat) :
      header.text.length ≤ (position?.map (· + header.text.length)).getD
        (header.text ++ tail).length := by
    cases position? <;> simp
  have stop_eq : (header.clauses tail).sourceSpan.stop = header.text.length := by
    simp only [Clauses.sourceSpan, clauses, Clauses.ofTail]
    rcases starts with where_at | limit_at
    · rw [where_at, Option.map_some, Option.getD_some, Nat.zero_add]
      exact Nat.min_eq_left (at_least _)
    · rw [limit_at, Option.map_some, Option.getD_some, Nat.zero_add]
      exact Nat.min_eq_right (at_least _)
  have start_eq : (header.clauses tail).sourceSpan.start =
      (header.selectWritten ++ header.list ++ header.fromWritten).length := by
    rw [List.length_append, Text.length_eq_of_same header.fromSame]
    rfl
  have total_eq : (header.selectWritten ++ header.list ++ header.fromWritten).length +
      header.name.length = header.text.length := by
    simp only [text, List.length_append]
    omega
  have text_eq : header.text ++ tail =
      (header.selectWritten ++ header.list ++ header.fromWritten) ++ (header.name ++ tail) := by
    simp only [text, List.append_assoc]
  have middle_eq := Span.of_middle (header.selectWritten ++ header.list ++ header.fromWritten)
    header.name tail
  rw [total_eq, ← text_eq, ← start_eq, ← stop_eq] at middle_eq
  exact middle_eq

/-- A query text with a header is read clause by clause. -/
theorem parse_append (trimmed : Text.Trimmed (header.text ++ tail)) (starts : StartsClause tail)
    (selects : readFields header.list ≠ []) (named : Text.trim header.name ≠ []) :
    parse (header.text ++ tail) =
      .ok
        { fields := readFields header.list
          source := Text.trim header.name
          conditions := tailConditions tail
          limit := tailLimit tail } := by
  rw [parse, Text.trim_of_trimmed trimmed, locate_append]
  simp only [bind, Except.bind, pure, Except.pure, of_fieldSpan, of_sourceSpan header tail starts,
    (header.behind_clauses tail).conditions, (header.behind_clauses tail).limit,
    List.isEmpty_iff, selects, named, if_false]

/-- Whatever the header selects, the clauses behind it are read in the same way. -/
theorem of_parse_append (trimmed : Text.Trimmed (header.text ++ tail)) {query : Query}
    (parsed : parse (header.text ++ tail) = .ok query) :
    query.conditions = tailConditions tail ∧ query.limit = tailLimit tail := by
  rw [parse, Text.trim_of_trimmed trimmed, locate_append] at parsed
  simp only [bind, Except.bind, pure, Except.pure, (header.behind_clauses tail).conditions,
    (header.behind_clauses tail).limit] at parsed
  split at parsed
  · cases parsed
  · split at parsed
    · cases parsed
    · cases parsed
      exact ⟨rfl, rfl⟩

end Header

end ProxyHistory.Query
