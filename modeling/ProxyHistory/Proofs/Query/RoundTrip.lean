import ProxyHistory.Proofs.Query.Written

/-!
# Reading written queries

A written query is read back with its names, its source, its conditions one by one and its limit,
unless a field spells a keyword that is looked for there, or a field leaves a quote open that hides
what follows it. These exceptions are the only ones: where one of them applies, the query is read as
something else.
-/

namespace ProxyHistory.Query

open Text (isBlank Blank Trimmed sameIgnoringCase)

/-- The limit stands in front of the conditions. -/
def WrittenLimit.Leads : WrittenLimit → Prop
  | .none | .behind _ _ _ _ => False
  | .inFront _ _ _ _ => True

namespace WrittenQuery

variable (query : WrittenQuery)

/-- The conditions that something follows. -/
def followed : List WrittenCondition :=
  match query.limit with
  | .none | .inFront _ _ _ _ => query.conditions.dropLast
  | .behind _ _ _ _ => query.conditions

/-- No field is taken for a keyword, and no field hides what follows it behind a quote. -/
structure IsReadable : Prop where
  sparesAnd : ∀ written ∈ query.conditions, written.condition.Spares andKeyword
  /-- A limit in front of the conditions is found before any field. -/
  sparesLimit : ¬ query.limit.Leads →
    ∀ written ∈ query.conditions, written.condition.Spares limitKeyword
  closed : ∀ written ∈ query.followed, written.condition.IsClosed

/-! ## From the parts to the text -/

theorem forall_mem_texts {Holds : Text → Prop} :
    (∀ text ∈ query.texts, Holds text) ↔ ∀ condition ∈ query.conditions, Holds condition.text := by
  rw [texts, List.forall_mem_map]

theorem dropLast_subset_followed : query.conditions.dropLast ⊆ query.followed := by
  rw [followed]
  cases query.limit with
  | none | inFront => exact List.Subset.refl _
  | behind => exact List.dropLast_subset _

variable {query}

theorem IsReadable.closed_texts (readable : query.IsReadable) :
    ∀ text ∈ query.texts.dropLast, Closed text := by
  rw [texts, ← List.map_dropLast, List.forall_mem_map]
  intro condition member
  exact condition.closed_text_iff.mpr
    (readable.closed condition (query.dropLast_subset_followed member))

theorem IsReadable.fragments_clause (readable : query.IsReadable) :
    fragments query.clause = query.texts := by
  have isFragment : ∀ text ∈ query.texts, IsFragment text := by
    rw [forall_mem_texts]
    intro condition member
    obtain ⟨trimmed, ne_nil⟩ := condition.trimmed_text
    exact ⟨ne_nil, trimmed, (condition.keywordPositions_text_iff isKeyword_and).mpr
      (readable.sparesAnd condition member)⟩
  have closed := readable.closed_texts
  rw [texts_eq] at isFragment closed ⊢
  exact fragments_join isFragment closed

theorem IsReadable.unlimited_clause (readable : query.IsReadable) (trails : ¬ query.limit.Leads) :
    keywordPositions limitKeyword query.clause = [] := by
  have absent : ∀ text ∈ query.texts, keywordPositions limitKeyword text = [] := by
    rw [forall_mem_texts]
    intro condition member
    exact (condition.keywordPositions_text_iff isKeyword_limit).mpr
      (readable.sparesLimit trails condition member)
  have closed := readable.closed_texts
  rw [texts_eq] at absent closed
  exact keywordPositions_join isWord_limitKeyword (by decide) absent closed

theorem IsReadable.closed_clause (readable : query.IsReadable)
    (followed_eq : query.followed = query.conditions) : Closed query.clause := by
  have closed : ∀ text ∈ query.texts, Closed text := by
    rw [forall_mem_texts]
    intro condition member
    exact condition.closed_text_iff.mpr (readable.closed condition (followed_eq ▸ member))
  rw [texts_eq] at closed
  exact closed_join closed

theorem IsReadable.tail_eq (readable : query.IsReadable) :
    tailConditions query.tail = query.texts ∧ tailLimit query.tail = query.limit.value := by
  rw [← readable.fragments_clause]
  cases limit_eq : query.limit with
  | none =>
      have trails : ¬ query.limit.Leads := by simp [limit_eq, WrittenLimit.Leads]
      simp only [tail, limit_eq]
      exact tail_of_conditions query.whereJoint (readable.unlimited_clause trails)
  | inFront joint limit positive below =>
      simp only [tail, limit_eq]
      exact tail_of_limit_conditions query.whereJoint joint below
  | behind joint limit positive below =>
      have trails : ¬ query.limit.Leads := by simp [limit_eq, WrittenLimit.Leads]
      have followed_eq : query.followed = query.conditions := by simp only [followed, limit_eq]
      simp only [tail, limit_eq]
      exact tail_of_conditions_limit query.whereJoint joint below
        (readable.unlimited_clause trails) (readable.closed_clause followed_eq)

/-! ## From the text to the parts -/

/-- What is read as conditions is a clause, without LIMIT unless the limit comes first, and without
an open quote if a limit is read behind it. -/
theorem exists_tailConditions_tail_eq (query : WrittenQuery) :
    ∃ clause, tailConditions query.tail = fragments clause ∧
      (¬ query.limit.Leads →
        keywordPositions limitKeyword clause = [] ∧
          (tailLimit query.tail ≠ 0 → Closed clause)) := by
  have of_where (rest : Text) :=
    exists_tailConditions_eq query.whereJoint.same (startsBlank_after query.whereJoint rest)
  cases limit_eq : query.limit with
  | none =>
      obtain ⟨clause, conditions_eq, behind⟩ := of_where query.clause
      simp only [tail, limit_eq]
      exact ⟨clause, conditions_eq, fun _ => behind⟩
  | inFront joint limit positive below =>
      simp only [tail, limit_eq]
      exact ⟨query.clause, (tail_of_limit_conditions query.whereJoint joint below).1,
        fun trails => absurd trivial trails⟩
  | behind joint limit =>
      obtain ⟨clause, conditions_eq, behind⟩ := of_where
        (query.clause ++ (joint.before ++ (joint.written ++ (joint.after ++ Text.ofNat limit))))
      simp only [tail, limit_eq, List.append_assoc]
      exact ⟨clause, conditions_eq, fun _ => behind⟩

theorem isReadable_of_tail_eq (conditions_eq : tailConditions query.tail = query.texts)
    (value_eq : tailLimit query.tail = query.limit.value) : query.IsReadable := by
  obtain ⟨clause, clause_eq, behind⟩ := query.exists_tailConditions_tail_eq
  have texts_read : fragments clause = query.texts := clause_eq.symm.trans conditions_eq
  constructor
  · have absent := @keywordPositions_of_mem_fragments clause
    rw [texts_read, forall_mem_texts] at absent
    exact fun condition member =>
      (condition.keywordPositions_text_iff isKeyword_and).mp (absent condition member)
  · intro trails
    have absent := absent_of_mem_fragments isWord_limitKeyword (behind trails).1
    rw [texts_read, forall_mem_texts] at absent
    exact fun condition member =>
      (condition.keywordPositions_text_iff isKeyword_limit).mp (absent condition member)
  · have closed := @closed_of_mem_dropLast_fragments clause
    rw [texts_read, texts, ← List.map_dropLast, List.forall_mem_map] at closed
    intro condition member
    apply condition.closed_text_iff.mp
    cases limit_eq : query.limit with
    | none | inFront =>
        simp only [followed, limit_eq] at member
        exact closed condition member
    | behind joint limit positive =>
        simp only [followed, limit_eq] at member
        have limited : tailLimit query.tail ≠ 0 := by
          rw [value_eq, limit_eq]
          exact positive.ne'
        have trails : ¬ query.limit.Leads := by simp [limit_eq, WrittenLimit.Leads]
        have closedAll := closed_of_mem_fragments ((behind trails).2 limited)
        rw [texts_read, forall_mem_texts] at closedAll
        exact closedAll condition member

variable (query)

/-- A query is read as its parts exactly if it is readable, and its conditions are read as what they
were written for. -/
theorem parse_text_eq_parts_iff :
    (parse query.text = .ok query.parts ↔ query.IsReadable) ∧
      query.parts.conditions.map Condition.parse =
        query.conditions.map fun written => .ok (some written.condition) := by
  constructor
  · rw [parse_text, Except.ok.injEq, parts, Query.mk.injEq]
    constructor
    · rintro ⟨-, -, conditions_eq, value_eq⟩
      exact isReadable_of_tail_eq conditions_eq value_eq
    · intro readable
      exact ⟨rfl, rfl, readable.tail_eq.1, readable.tail_eq.2⟩
  · rw [parts, texts, List.map_map]
    exact List.map_congr_left fun written _ => written.parse_text

/-- A query for one condition, with single spaces and without a limit. -/
def single (condition : WrittenCondition) : WrittenQuery where
  toFront := .spaced ["url".toList] (by decide)
    (List.forall_mem_singleton.mpr ⟨⟨by decide, by decide, by decide⟩, by decide, by decide⟩)
    "proxy".toList ⟨by decide, by decide, by decide, by decide⟩
  lead := []
  lead_blank := Text.Blank.nil
  whereJoint := .spaced whereKeyword
  first := condition
  rest := []
  limit := .none
  trail := []
  trail_blank := Text.Blank.nil

/-- Keywords and the other quote in a value, and a limit behind the conditions. -/
def quotedKeywords : WrittenQuery :=
  { single
      { condition := .standard "host".toList .ne (.text "x AND \"y\" LIMIT 3".toList)
        quote := '\''
        isQuote := by decide
        writable := ⟨.name ⟨_, _, rfl, by decide, by decide⟩, by decide, by decide, by decide,
          by decide⟩ } with
    rest := [
      (⟨['\t'], "And".toList, [' ', ' '], by decide, by decide, by decide, by decide, by decide⟩,
        { condition := .length "path".toList .ge "12".toList
          quote := '"'
          isQuote := by decide
          writable := ⟨⟨by decide, by decide⟩, by decide, by decide, by decide⟩ })]
    limit := .behind
      ⟨[' '], "limit".toList, ['\t'], by decide, by decide, by decide, by decide, by decide⟩ 7
      (by decide) (by decide) }

theorem quotedKeywords_isReadable : quotedKeywords.IsReadable := by
  constructor
  · decide
  · intro _
    decide
  · decide

theorem parse_quotedKeywords :
    quotedKeywords.text = ("SELECT url FROM proxy WHERE host != 'x AND \"y\" LIMIT 3'" ++
        "\tAnd  len(path) >= 12 limit\t7").toList ∧
      parse quotedKeywords.text = .ok quotedKeywords.parts ∧
      quotedKeywords.parts.conditions.map Condition.parse =
        quotedKeywords.conditions.map fun written => .ok (some written.condition) :=
  ⟨by decide, (parse_text_eq_parts_iff quotedKeywords).1.mpr quotedKeywords_isReadable,
    (parse_text_eq_parts_iff quotedKeywords).2⟩

/-- A condition on a field under the joining word. -/
def joiningField : WrittenQuery :=
  single
    { condition := .standard "and".toList .eq (.text "v".toList)
      quote := '\''
      isQuote := by decide
      writable := ⟨.name ⟨_, _, rfl, by decide, by decide⟩, by decide, by decide, by decide,
        by decide⟩ }

/-- The field is taken for the word that joins conditions. -/
theorem parse_joiningField :
    joiningField.text = "SELECT url FROM proxy WHERE and = 'v'".toList ∧
      joiningField.parts.conditions = ["and = 'v'".toList] ∧
      parse joiningField.text =
        .ok { joiningField.parts with conditions := ["= 'v'".toList] } ∧
      parse joiningField.text ≠ .ok joiningField.parts := by
  have read : parse joiningField.text =
      .ok { joiningField.parts with conditions := ["= 'v'".toList] } := by rfl
  refine ⟨by decide, by decide, read, ?_⟩
  rw [read]
  decide

end WrittenQuery

end ProxyHistory.Query
