import ProxyHistory.Proofs.Client.Assembly
import ProxyHistory.Proofs.Condition.Operator
import ProxyHistory.Proofs.Selection.Bound

/-!
# The row limit

An assembled query gives no more rows than its limit allows. If its conditions leave no quote open,
then the limit behind them is read. If they leave one open, the limit is hidden in the last
condition, which fits no grammar then, so that nothing is selected.
-/

namespace ProxyHistory.Client

open Text (Blank Trimmed sameIgnoringCase)
open Query (IsWord Closed Settled StartsBlank keywordPositions fragments selectKeyword fromKeyword
  whereKeyword limitKeyword)

/-! ## What is mentioned -/

theorem mentions_iff {word text : Text} : mentions word text ↔ word <:+: Text.upper text := by
  rw [mentions, Text.includes_iff]

theorem mentions_of_part {word part text : Text} (inside : part <:+: text)
    (mentioned : mentions word part) : mentions word text := by
  obtain ⟨front, back, rfl⟩ := inside
  rw [mentions_iff] at mentioned ⊢
  rw [Text.upper_append, Text.upper_append]
  exact mentioned.trans (List.infix_append _ _ _)

/-- A text around a character that a word does not hold mentions the word on one of its sides. -/
theorem mentions_append_cons {word left right : Text} {mark : Char}
    (fixed : Text.upperChar mark = [mark]) (undivided : mark ∉ word)
    (mentioned : mentions word (left ++ mark :: right)) :
    mentions word left ∨ mentions word right := by
  have upper_eq : Text.upper (left ++ mark :: right) = Text.upper left ++ mark :: Text.upper right := by
    rw [Text.upper_append, Text.upper, Text.upper, List.flatMap_cons, fixed]
    rfl
  rw [mentions_iff, upper_eq, List.infix_append_iff, List.infix_cons_iff] at mentioned
  rw [mentions_iff, mentions_iff]
  rcases mentioned with inLeft | (atMark | inRight) | ⟨first, second, rfl, ends, starts⟩
  · exact .inl inLeft
  · rcases List.prefix_cons_iff.mp atMark with rfl | ⟨rest, rfl, -⟩
    · exact .inl (List.nil_infix)
    · exact absurd List.mem_cons_self undivided
  · exact .inr inRight
  · rcases List.prefix_cons_iff.mp starts with rfl | ⟨rest, rfl, -⟩
    · rw [List.append_nil]
      exact .inl ends.isInfix
    · exact absurd (List.mem_append_right first List.mem_cons_self) undivided

theorem upperChar_of_lt {c : Char} (before : c.toNat < 65) : Text.upperChar c = [c] := by
  have unchanged : c.toUpper = c := by
    rw [← Char.toNat_inj, Text.toNat_toUpper, if_neg (by omega)]
  rw [Text.upperChar, if_pos (by omega), unchanged]

section Reserved

variable {word : Text} (reserved : word ∈ reservedWords)

include reserved

theorem not_mem_of_reserved {c : Char} (before : c.toNat < 65) : c ∉ word := by
  intro member
  have capital := capital_of_reserved reserved c member
  omega

theorem not_mentions_intercalate {mark : Char} (before : mark.toNat < 65) {parts : List Text}
    (unmentioned : ∀ part ∈ parts, ¬ mentions word part) :
    ¬ mentions word (List.intercalate [mark] parts) := by
  induction parts with
  | nil =>
      rw [mentions_iff]
      exact fun inside => ne_nil_of_reserved reserved (List.infix_nil.mp inside)
  | cons part rest induction =>
      obtain ⟨here, later⟩ := List.forall_mem_cons.mp unmentioned
      cases rest with
      | nil => rwa [List.intercalate_singleton]
      | cons next others =>
          rw [List.intercalate_cons_cons, List.append_assoc, List.singleton_append]
          intro mentioned
          exact (mentions_append_cons (upperChar_of_lt before)
            (not_mem_of_reserved reserved before) mentioned).elim here (induction later)

theorem not_mentions_ofNat (number : Nat) : ¬ mentions word (Text.ofNat number) := by
  have below : ∀ c ∈ Text.ofNat number, c.toNat < 65 := by
    intro c member
    have digit := Text.isDigit_of_mem_ofNat member
    rw [Char.isDigit_iff_toNat, show '9'.toNat = 57 from rfl] at digit
    omega
  have upper_eq : Text.upper (Text.ofNat number) = Text.ofNat number := by
    rw [Text.upper, List.flatMap_congr fun c member => upperChar_of_lt (below c member),
      List.flatMap_singleton']
  rw [mentions_iff, upper_eq]
  intro inside
  obtain ⟨first, rest, rfl⟩ := List.exists_cons_of_ne_nil (ne_nil_of_reserved reserved)
  have digit := below first (inside.mem List.mem_cons_self)
  exact not_mem_of_reserved reserved digit List.mem_cons_self

end Reserved

theorem not_mentions_trim {word text : Text} (unmentioned : ¬ mentions word text) :
    ¬ mentions word (Text.trim text) := by
  obtain ⟨before, after, -, -, split⟩ := Text.exists_blanks_trim text
  exact mt (mentions_of_part ⟨before, after, split.symm⟩) unmentioned

/-! ## The text of a query -/

/-- The list of fields in a query that is assembled. -/
def fieldList (fields : List Text) : Text :=
  List.intercalate [','] fields

section Parse

variable {fields : List Text} {conditions : Text} (limit : Nat)

theorem buildQuery_eq_append (fields : List Text) (conditions : Text) :
    buildQuery fields conditions limit =
      (selectKeyword ++ ([' '] ++ fieldList fields)) ++
        (([' '] ++ fromKeyword) ++ ([' '] ++ source ++ [' '] ++ tail conditions limit)) := by
  change (selectKeyword ++ [' ']) ++ List.intercalate [','] fields ++
      ([' '] ++ fromKeyword ++ [' ']) ++ source ++ ([' '] ++ whereKeyword ++ [' ']) ++
      Text.trim conditions ++ ([' '] ++ limitKeyword ++ [' ']) ++ Text.ofNat limit = _
  simp only [tail, fieldList, List.append_assoc]

theorem trimmed_buildQuery (fields : List Text) (conditions : Text) :
    Trimmed (buildQuery fields conditions limit) := by
  have digits := Text.isWord_ofNat limit
  have around := (Query.trimmed_of_isWord Query.isWord_selectKeyword).append_append
    (Query.trimmed_of_isWord digits) Query.isWord_selectKeyword.ne_nil digits.ne_nil
    ([' '] ++ fieldList fields ++ ([' '] ++ fromKeyword) ++ ([' '] ++ source ++ [' '] ++
      (whereKeyword ++ (([' '] ++ Text.trim conditions ++ [' ']) ++ (limitKeyword ++ [' '])))))
  rw [buildQuery_eq_append]
  simpa only [tail, List.append_assoc] using around

/-- What stands behind FROM does not mention it again. -/
theorem not_mentions_behind {conditions : Text} (unmentioned : ¬ mentions fromKeyword conditions) :
    ¬ mentions fromKeyword ([' '] ++ source ++ [' '] ++ tail conditions limit) := by
  have parts_eq : [' '] ++ source ++ [' '] ++ tail conditions limit =
      List.intercalate [' '] [[], source, whereKeyword, Text.trim conditions, limitKeyword,
        Text.ofNat limit] := by
    simp [tail]
  rw [parts_eq]
  refine not_mentions_intercalate reserved_from (by decide) ?_
  simp only [List.forall_mem_cons]
  exact ⟨by decide, by decide, by decide, not_mentions_trim unmentioned, by decide,
    not_mentions_ofNat reserved_from limit, fun part member => absurd member List.not_mem_nil⟩

section Fields

variable (unmentioned : ∀ field ∈ fields, ¬ mentions fromKeyword field)

include unmentioned

theorem keywordPositions_fieldList : keywordPositions fromKeyword (fieldList fields) = [] :=
  keywordPositions_of_not_mentions reserved_from
    (not_mentions_intercalate reserved_from (by decide) unmentioned)

/-- Fields that leave a quote open hide the source, so that the query is refused. -/
theorem exists_error_of_open (isOpen : ¬ Closed (fieldList fields))
    (unmentionedConditions : ¬ mentions fromKeyword conditions) :
    ∃ error, Query.parse (buildQuery fields conditions limit) = .error error := by
  have field_starts : StartsBlank ([' '] ++ fieldList fields) := Query.startsBlank_space _
  have from_starts : StartsBlank
      (([' '] ++ fromKeyword) ++ ([' '] ++ source ++ [' '] ++ tail conditions limit)) :=
    Query.startsBlank_space _
  have source_starts : StartsBlank ([' '] ++ source ++ [' '] ++ tail conditions limit) :=
    Query.startsBlank_space _
  have stillOpen : ¬ Closed (selectKeyword ++ ([' '] ++ fieldList fields)) := by
    rwa [← List.append_assoc, Query.closed_plain_append (by decide)]
  have absent : keywordPositions fromKeyword (buildQuery fields conditions limit) = [] := by
    rw [buildQuery_eq_append, Query.keywordPositions_append_append_of_not_closed
        Query.isWord_fromKeyword stillOpen (.inr from_starts) (.inr source_starts) (by decide)
        (occurrences_of_not_mentions reserved_from (not_mentions_behind limit unmentionedConditions)),
      Query.keywordPositions_word_append Query.isWord_fromKeyword Query.isWord_selectKeyword
        field_starts,
      Query.keywordPositions_blank_append Query.isWord_fromKeyword Text.blank_space,
      keywordPositions_fieldList unmentioned]
    rfl
  refine ⟨.malformed .missingSelectOrFrom, ?_⟩
  have unlocated : Query.Clauses.locate (buildQuery fields conditions limit) =
      .error (.malformed .missingSelectOrFrom) := by
    rw [Query.Clauses.locate, absent]
    cases (keywordPositions selectKeyword (buildQuery fields conditions limit)).head? with
    | none => rfl
    | some position => rfl
  rw [Query.parse, Text.trim_of_trimmed (trimmed_buildQuery limit fields conditions), unlocated]
  rfl

/-- The front of a query for fields that leave no quote open. -/
def header (closed : Closed (fieldList fields)) : Query.Header where
  selectWritten := selectKeyword
  list := [' '] ++ fieldList fields ++ [' ']
  fromWritten := fromKeyword
  name := [' '] ++ source ++ [' ']
  selectSame := Text.sameIgnoringCase_self selectKeyword
  fromSame := Text.sameIgnoringCase_self fromKeyword
  list_starts := Query.startsBlank_space _
  list_ne_nil := List.cons_ne_nil _ _
  list_settled := by
    have behind := (Query.closed_plain_append (Query.plain_of_blank Text.blank_space) _).mpr closed
    exact behind.settled_append Text.blank_space (List.cons_ne_nil _ _)
  list_whole := by
    rw [Query.keywordPositions_append_blank Query.isWord_fromKeyword _ Text.blank_space,
      Query.keywordPositions_blank_append Query.isWord_fromKeyword Text.blank_space,
      keywordPositions_fieldList unmentioned, List.map_nil]
  name_starts := Query.startsBlank_space _
  name_ne_nil := List.cons_ne_nil _ _
  name_settled := rfl
  name_whole := ⟨rfl, rfl⟩

/-- Whatever the fields are, a query that is not refused has the clauses of its tail. -/
theorem of_parse_buildQuery (unmentionedConditions : ¬ mentions fromKeyword conditions)
    {query : Query} (parsed : Query.parse (buildQuery fields conditions limit) = .ok query) :
    query.conditions = Query.tailConditions (tail conditions limit) ∧
      query.limit = Query.tailLimit (tail conditions limit) := by
  by_cases closed : Closed (fieldList fields)
  · have text_eq : buildQuery fields conditions limit =
        (header unmentioned closed).text ++ tail conditions limit := by
      rw [buildQuery_eq_append]
      simp only [Query.Header.text, header, List.append_assoc]
    have trimmed := trimmed_buildQuery limit fields conditions
    rw [text_eq] at trimmed parsed
    exact (header unmentioned closed).of_parse_append _ trimmed parsed
  · obtain ⟨error, refused⟩ := exists_error_of_open limit unmentioned closed unmentionedConditions
    rw [refused] at parsed
    cases parsed

end Fields

end Parse

/-! ## The bound -/

/-- Conditions that leave a quote open end with a fragment that fits no grammar. -/
theorem exists_unfit_of_open {conditions : Text} (isOpen : ¬ Closed conditions) (limit : Nat) :
    ∃ fragment ∈ fragments (Text.trim conditions ++ limitText limit),
      ∀ condition, Condition.parse fragment ≠ .ok (some condition) := by
  have digits := Text.isWord_ofNat limit
  have isDigits : ∀ c ∈ Text.ofNat limit, Text.isDecimalDigit c := fun c member =>
    Text.isDecimalDigit_of_isDigit (Text.isDigit_of_mem_ofNat member)
  let back := limitKeyword ++ ([' '] ++ Text.ofNat limit)
  have text_eq : limitText limit = [' '] ++ back := by
    simp only [limitText, back, List.append_assoc]
  have trimmed : Trimmed back :=
    (Query.trimmed_of_isWord Query.isWord_limitKeyword).append_append
      (Query.trimmed_of_isWord digits) Query.isWord_limitKeyword.ne_nil digits.ne_nil [' ']
  have nonempty : back ≠ [] := List.cons_ne_nil _ _
  have plain := limitText_plain limit
  have stillOpen : ¬ Closed (Text.trim conditions) := by rwa [Query.closed_trim]
  rw [text_eq] at plain ⊢
  obtain ⟨front, member⟩ := Query.exists_mem_fragments_append stillOpen (Query.startsBlank_space _)
    plain trimmed nonempty
  have ends : Text.trim (Text.trim (front ++ back)) =
      (Text.trimStart front ++ "LIMI".toList) ++ 'T' :: ' ' :: Text.ofNat limit := by
    have around := Text.trim_append_append trimmed nonempty front []
    rw [List.append_nil] at around
    rw [Text.trim_trim, around]
    simp [back, limitKeyword, Text.trimEnd]
  exact ⟨_, member, Condition.not_parse_of_number ends digits.ne_nil isDigits⟩

theorem isBounded_of_parse {registry : FieldRegistry} {fields : List Text} {conditions : Text}
    {limit : Nat} (accepted : checkInput registry fields conditions = .ok ())
    (positive : 1 ≤ limit) {query : Query}
    (parsed : Query.parse (buildQuery fields conditions limit) = .ok query) :
    query.IsBounded limit := by
  obtain ⟨unmentioned, -⟩ := of_checkInput accepted
  obtain ⟨fieldsUnmentioned, conditionsUnmentioned⟩ := unmentioned fromKeyword reserved_from
  obtain ⟨sameConditions, sameLimit⟩ :=
    of_parse_buildQuery limit fieldsUnmentioned conditionsUnmentioned parsed
  have unlimited : keywordPositions limitKeyword conditions = [] :=
    keywordPositions_of_not_mentions reserved_limit (unmentioned limitKeyword reserved_limit).2
  by_cases closed : Closed conditions
  · have tail_limit : Query.tailLimit (tail conditions limit) =
        Query.readLimit (Text.ofNat limit) :=
      (Query.tail_of_conditions_literal (.spaced whereKeyword) (.spaced limitKeyword) limit
        (Query.keywordPositions_trim Query.isWord_limitKeyword unlimited)
        ((Query.closed_trim conditions).mpr closed)).2
    rw [tail_limit] at sameLimit
    rw [Query.IsBounded, sameLimit]
    exact .inl (Query.readLimit_ofNat_le positive)
  · rw [(tail_of_open closed limit unlimited).1] at sameConditions
    rw [Query.IsBounded, sameConditions]
    exact .inr (exists_unfit_of_open closed limit)

/-- Whatever fields and conditions the client accepts, the assembled query is refused or gives no
more rows than its limit. -/
theorem length_execute_buildQuery_le (engine : Engine) (history : History)
    {registry : FieldRegistry} {fields : List Text} {conditions : Text} {limit : Nat}
    (accepted : checkInput registry fields conditions = .ok ()) (positive : 1 ≤ limit) :
    (∃ error, engine.execute (buildQuery fields conditions limit) history = .error error) ∨
      ∃ rows, engine.execute (buildQuery fields conditions limit) history = .ok rows ∧
        rows.length ≤ limit :=
  engine.length_execute_le history fun _ => isBounded_of_parse accepted positive

/-- An open quote hides a limit of one row from a history of two transactions. -/
theorem length_execute_buildQuery_le_open :
    let recorded (method : Text) : Transaction :=
      { method
        url := "http://a.test/".toList
        host := "a.test".toList
        path := "/".toList
        query := []
        request := []
        requestBody := []
        requestContentType := .unknown
        response? := none }
    let conditions := "host = a.test and method != 'PUT".toList
    let text := buildQuery ["url".toList] conditions 1
    let history := [recorded "POST".toList, recorded "GET".toList]
    checkInput .builtin ["url".toList] conditions = .ok () ∧ 1 ≤ 1 ∧
      ((∃ error, Engine.execute ⟨.builtin, .required⟩ text history = .error error) ∨
        ∃ rows, Engine.execute ⟨.builtin, .required⟩ text history = .ok rows ∧ rows.length ≤ 1) := by
  intro recorded conditions text history
  have accepted : checkInput .builtin ["url".toList] conditions = .ok () := by rfl
  exact ⟨accepted, Nat.le_refl 1, length_execute_buildQuery_le _ history accepted (Nat.le_refl 1)⟩

end ProxyHistory.Client
