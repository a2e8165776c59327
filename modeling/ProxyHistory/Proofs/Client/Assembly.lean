import ProxyHistory.Client.Assembly
import ProxyHistory.Proofs.FieldRegistry
import ProxyHistory.Proofs.Query.Parts
import ProxyHistory.Proofs.Text.Search

/-!
# Assembled queries

What the client accepts does not change the clauses of the query it becomes a part of. The check
looks for reserved words anywhere, so it finds every keyword that the query language would. It does
not look at quotes: conditions that leave one open take the limit behind them in.
-/

namespace ProxyHistory.Client

open Text (Blank Trimmed sameIgnoringCase)
open Query (IsWord IsListed Closed Settled StartsBlank keywordPositions fragments selectKeyword
  fromKeyword whereKeyword limitKeyword)

theorem reserved_from : fromKeyword ∈ reservedWords := by decide

theorem reserved_limit : limitKeyword ∈ reservedWords := by decide

theorem ne_nil_of_reserved {word : Text} (reserved : word ∈ reservedWords) : word ≠ [] := by
  rintro rfl
  exact absurd reserved (by decide)

theorem capital_of_reserved {word : Text} (reserved : word ∈ reservedWords) :
    ∀ c ∈ word, 65 ≤ c.toNat ∧ c.toNat ≤ 90 := by
  have all : ∀ word ∈ reservedWords, ∀ c ∈ word, 65 ≤ c.toNat ∧ c.toNat ≤ 90 := by decide
  exact all word reserved

theorem mentions_of_same {word front written rest : Text} (reserved : word ∈ reservedWords)
    (same : sameIgnoringCase written word = true) : mentions word (front ++ (written ++ rest)) := by
  rw [mentions, Text.includes_iff, Text.upper_append, Text.upper_append,
    Text.upper_of_same (capital_of_reserved reserved) same, ← List.append_assoc]
  exact List.infix_append _ _ _

/-- Where a word is not mentioned it does not stand as a keyword, wherever the scan stands. -/
theorem occurrences_of_not_mentions {word text : Text} (reserved : word ∈ reservedWords)
    (unmentioned : ¬ mentions word text) (scan : Query.Scan) :
    Query.occurrences word scan text = [] := by
  rw [List.eq_nil_iff_forall_not_mem]
  intro position member
  obtain ⟨front, written, rest, rfl, -, -, same, -⟩ :=
    (Query.mem_occurrences_iff (ne_nil_of_reserved reserved)).mp member
  exact unmentioned (mentions_of_same reserved same)

theorem keywordPositions_of_not_mentions {word text : Text} (reserved : word ∈ reservedWords)
    (unmentioned : ¬ mentions word text) : keywordPositions word text = [] :=
  occurrences_of_not_mentions reserved unmentioned .start

theorem not_mentions_of_checkWords {fields words : List Text} {conditions : Text}
    (accepted : checkWords fields conditions words = .ok ()) :
    ∀ word ∈ words, (∀ field ∈ fields, ¬ mentions word field) ∧ ¬ mentions word conditions := by
  induction words with
  | nil => simp
  | cons word words induction =>
      rw [checkWords] at accepted
      split at accepted
      · simp at accepted
      · rename_i noField
        split at accepted
        · simp at accepted
        · rename_i noCondition
          rw [List.forall_mem_cons]
          exact ⟨⟨List.find?_eq_none.mp noField, noCondition⟩, induction accepted⟩

/-- What was accepted mentions no reserved word and names known fields only. -/
theorem of_checkInput {registry : FieldRegistry} {fields : List Text} {conditions : Text}
    (accepted : checkInput registry fields conditions = .ok ()) :
    (∀ word ∈ reservedWords, (∀ field ∈ fields, ¬ mentions word field) ∧
        ¬ mentions word conditions) ∧
      ∀ field ∈ fields, registry.contains field := by
  unfold checkInput at accepted
  cases checked : checkWords fields conditions reservedWords with
  | error reason => simp [checked, bind, Except.bind] at accepted
  | ok result =>
      refine ⟨not_mentions_of_checkWords checked, ?_⟩
      rw [checked] at accepted
      cases unknown : fields.find? (!registry.contains ·) with
      | some field =>
          simp [unknown, bind, Except.bind, throw, throwThe, MonadExceptOf.throw] at accepted
      | none =>
          intro field member
          simpa using List.find?_eq_none.mp unknown field member

theorem isSource_source : Query.IsSource source :=
  ⟨by decide, by decide, by decide, by decide⟩

theorem isSelectable_of_known {field : Text} (known : FieldRegistry.builtin.contains field)
    (unmentioned : ¬ mentions fromKeyword field) : Query.IsSelectable field where
  listed := FieldRegistry.isListed_of_contains_builtin known
  plain := fun c member => ((FieldRegistry.isWord_of_contains_builtin known).plain c member).2
  whole := keywordPositions_of_not_mentions (by decide) unmentioned

/-- The front of the query for known fields. -/
def front {fields : List Text} (ne_nil : fields ≠ [])
    (known : ∀ field ∈ fields, FieldRegistry.builtin.contains field)
    (unmentioned : ∀ field ∈ fields, ¬ mentions fromKeyword field) : Query.Front :=
  .spaced fields ne_nil
    (fun field member => isSelectable_of_known (known field member) (unmentioned field member))
    source isSource_source

/-- The clauses behind the source of a query that was assembled. -/
def tail (conditions : Text) (limit : Nat) : Text :=
  whereKeyword ++
    (([' '] ++ Text.trim conditions ++ [' ']) ++ (limitKeyword ++ ([' '] ++ Text.ofNat limit)))

theorem buildQuery_eq {fields : List Text} (ne_nil : fields ≠ [])
    (known : ∀ field ∈ fields, FieldRegistry.builtin.contains field)
    (unmentioned : ∀ field ∈ fields, ¬ mentions fromKeyword field) (conditions : Text)
    (limit : Nat) :
    buildQuery fields conditions limit =
      (front ne_nil known unmentioned).text ++ ([' '] ++ tail conditions limit) := by
  change (selectKeyword ++ [' ']) ++ List.intercalate [','] fields ++
      ([' '] ++ fromKeyword ++ [' ']) ++ source ++ ([' '] ++ whereKeyword ++ [' ']) ++
      Text.trim conditions ++ ([' '] ++ limitKeyword ++ [' ']) ++ Text.ofNat limit = _
  simp only [Query.Front.text, Query.Front.spaced, Query.Joint.text, Query.Joint.spaced, front, tail,
    List.append_assoc]

/-- A query that was assembled is read with its fields and its source. -/
theorem parse_assembled {fields : List Text} (ne_nil : fields ≠ [])
    (known : ∀ field ∈ fields, FieldRegistry.builtin.contains field)
    (unmentioned : ∀ field ∈ fields, ¬ mentions fromKeyword field) (conditions : Text)
    (limit : Nat) :
    Query.parse (buildQuery fields conditions limit) =
      .ok
        { fields
          source
          conditions := Query.tailConditions (tail conditions limit)
          limit := Query.tailLimit (tail conditions limit) } := by
  have starts : Query.StartsClause (tail conditions limit) := by
    refine .inl (Query.head?_keywordPositions_word Query.isWord_whereKeyword
      (Text.sameIgnoringCase_self whereKeyword) ?_)
    simp only [List.append_assoc]
    exact Query.startsBlank_space _
  have split : tail conditions limit =
      (whereKeyword ++ ([' '] ++ Text.trim conditions ++ [' ']) ++ (limitKeyword ++ [' '])) ++
        Text.ofNat limit := by
    simp only [tail, List.append_assoc]
  have digits := Text.isWord_ofNat limit
  rw [buildQuery_eq ne_nil known unmentioned]
  exact (front ne_nil known unmentioned).parse_append Text.blank_space (List.cons_ne_nil _ _) starts
    split (Query.trimmed_of_isWord digits) digits.ne_nil

theorem tail_of_closed {conditions : Text} {limit : Nat} (below : limit < 2 ^ 63)
    (unlimited : keywordPositions limitKeyword conditions = []) (closed : Closed conditions) :
    Query.tailConditions (tail conditions limit) = fragments conditions ∧
      Query.tailLimit (tail conditions limit) = limit := by
  rw [← Query.fragments_trim conditions]
  exact Query.tail_of_conditions_limit (.spaced whereKeyword) (.spaced limitKeyword) below
    (Query.keywordPositions_trim Query.isWord_limitKeyword unlimited)
    ((Query.closed_trim conditions).mpr closed)

/-- What is written behind the conditions. -/
def limitText (limit : Nat) : Text :=
  [' '] ++ limitKeyword ++ [' '] ++ Text.ofNat limit

theorem limitText_plain (limit : Nat) : ∀ c ∈ limitText limit, Query.isQuote c = false := by
  have front : ∀ c ∈ [' '] ++ limitKeyword ++ [' '], Query.isQuote c = false := by decide
  intro c member
  rcases List.mem_append.mp member with inFront | inDigits
  · exact front c inFront
  · exact ((Text.isWord_ofNat limit).plain c inDigits).2

/-- Behind an open quote the limit is no clause. -/
theorem keywordPositions_of_open {conditions : Text} (isOpen : ¬ Closed conditions) (limit : Nat)
    (unlimited : keywordPositions limitKeyword conditions = []) :
    keywordPositions limitKeyword (Text.trim conditions ++ limitText limit) = [] := by
  have apart : Query.SetApart (Text.trim conditions) (limitText limit) :=
    .inr (Query.startsBlank_space (limitKeyword ++ [' '] ++ Text.ofNat limit))
  have stillOpen : ¬ Closed (Text.trim conditions) := by rwa [Query.closed_trim]
  rw [Query.keywordPositions_append_of_not_closed Query.isWord_limitKeyword stillOpen apart
      (limitText_plain limit),
    Query.keywordPositions_trim Query.isWord_limitKeyword unlimited]

/-- Conditions that leave a quote open go on to the end of the query. -/
theorem tail_of_open {conditions : Text} (isOpen : ¬ Closed conditions) (limit : Nat)
    (unlimited : keywordPositions limitKeyword conditions = []) :
    Query.tailConditions (tail conditions limit) =
        fragments (Text.trim conditions ++ limitText limit) ∧
      Query.tailLimit (tail conditions limit) = 0 := by
  have tail_eq : tail conditions limit =
      whereKeyword ++ ([' '] ++ (Text.trim conditions ++ limitText limit)) := by
    simp only [tail, limitText, List.append_assoc]
  rw [tail_eq]
  exact Query.tail_of_conditions (.spaced whereKeyword)
    (keywordPositions_of_open isOpen limit unlimited)

/-- A query that was assembled from what the client accepts has the given fields, and, if the
conditions leave no quote open, the given conditions and limit. Otherwise the limit becomes part of
the last condition. -/
theorem parse_buildQuery {fields : List Text} {conditions : Text} {limit : Nat}
    (ne_nil : fields ≠ []) (accepted : checkInput .builtin fields conditions = .ok ())
    (below : limit < 2 ^ 63) :
    Query.parse (buildQuery fields conditions limit) =
      .ok
        (if Closed conditions then
          { fields, source, conditions := fragments conditions, limit }
        else
          { fields
            source
            conditions := fragments (Text.trim conditions ++ " LIMIT ".toList ++ Text.ofNat limit)
            limit := 0 }) := by
  obtain ⟨unmentioned, known⟩ := of_checkInput accepted
  have fieldsPlain := (unmentioned fromKeyword (by decide)).1
  have unlimited : keywordPositions limitKeyword conditions = [] :=
    keywordPositions_of_not_mentions (by decide) (unmentioned limitKeyword (by decide)).2
  rw [parse_assembled ne_nil known fieldsPlain]
  by_cases closed : Closed conditions
  · obtain ⟨sameConditions, sameLimit⟩ := tail_of_closed below unlimited closed
    rw [if_pos closed, sameConditions, sameLimit]
  · obtain ⟨sameConditions, sameLimit⟩ := tail_of_open closed limit unlimited
    have behind : " LIMIT ".toList = [' '] ++ limitKeyword ++ [' '] := rfl
    rw [if_neg closed, sameConditions, sameLimit, behind, limitText]
    simp only [List.append_assoc]

/-- A joining word within quotes joins nothing, and the limit stays what it is. -/
theorem parse_buildQuery_quoted :
    Query.parse
        (buildQuery ["URL".toList, "host".toList] " path = 'a and b' AND method = POST".toList 20) =
      .ok
        { fields := ["URL".toList, "host".toList]
          source
          conditions := ["path = 'a and b'".toList, "method = POST".toList]
          limit := 20 } := by
  have accepted : checkInput .builtin ["URL".toList, "host".toList]
      " path = 'a and b' AND method = POST".toList = .ok () := by rfl
  rw [parse_buildQuery (by simp) accepted (by decide), if_pos (by decide)]
  rfl

/-- A quote that is left open hides the limit. -/
theorem not_parse_buildQuery_of_open :
    ¬ ∀ (fields : List Text) (conditions : Text) (limit : Nat), fields ≠ [] →
      checkInput .builtin fields conditions = .ok () → limit < 2 ^ 63 →
      Query.parse (buildQuery fields conditions limit) =
        .ok { fields, source, conditions := fragments conditions, limit } := by
  intro all
  have accepted : checkInput .builtin ["url".toList] "host = 'a".toList = .ok () := by rfl
  have hidden : (Query.parse (buildQuery ["url".toList] "host = 'a".toList 20)).map (·.limit) =
      .ok 0 := by
    rfl
  rw [all _ _ _ (by simp) accepted (by decide)] at hidden
  exact absurd (Except.ok.inj hidden) (by decide)

end ProxyHistory.Client
