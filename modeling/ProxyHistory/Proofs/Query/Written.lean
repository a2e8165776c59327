import ProxyHistory.Proofs.Query.Parts

/-!
# Written queries

A query may be written with any blanks between its parts, with any letter case of its keywords, and
with its limit in front of its conditions or behind them.
-/

namespace ProxyHistory.Query

open Text (isBlank Blank Trimmed sameIgnoringCase)

/-- The limit of a query and where it stands. -/
inductive WrittenLimit
  | none
  /-- The limit stands in front of the conditions. -/
  | inFront (joint : Joint limitKeyword) (limit : Nat) (positive : 0 < limit)
      (below : limit < 2 ^ 63)
  /-- The limit stands behind the conditions. -/
  | behind (joint : Joint limitKeyword) (limit : Nat) (positive : 0 < limit)
      (below : limit < 2 ^ 63)

/-- The number of a limit, or zero if there is none. -/
def WrittenLimit.value : WrittenLimit → Nat
  | .none => 0
  | .inFront _ limit _ _ | .behind _ limit _ _ => limit

/-- The parts of a query and the way to write them. -/
structure WrittenQuery extends Front where
  /-- The blanks in front of the query. -/
  lead : Text
  lead_blank : Blank lead
  /-- WHERE as written. -/
  whereJoint : Joint whereKeyword
  /-- The first condition. -/
  first : WrittenCondition
  /-- The other conditions with the joining words in front of them. -/
  rest : List (Joint andKeyword × WrittenCondition)
  /-- The limit. -/
  limit : WrittenLimit
  /-- The blanks behind the query. -/
  trail : Text
  trail_blank : Blank trail

namespace WrittenQuery

variable (query : WrittenQuery)

/-- The conditions from left to right. -/
def conditions : List WrittenCondition :=
  query.first :: query.rest.map (·.2)

/-- The conditions in their written form. -/
def texts : List Text :=
  query.conditions.map (·.text)

/-- The conditions with the joining words between them. -/
def clause : Text :=
  join query.first.text (query.rest.map fun (joint, condition) => (joint, condition.text))

/-- The clauses behind the source. -/
def clauses : Text :=
  match query.limit with
  | .none => query.whereJoint.text ++ query.clause
  | .inFront joint limit _ _ =>
      joint.text ++ Text.ofNat limit ++ query.whereJoint.text ++ query.clause
  | .behind joint limit _ _ =>
      query.whereJoint.text ++ query.clause ++ joint.text ++ Text.ofNat limit

/-- The written form of the query. -/
def text : Text :=
  query.lead ++ (query.toFront.text ++ query.clauses) ++ query.trail

/-- What the query is to be read as. -/
def parts : Query where
  fields := query.names
  source := query.source
  conditions := query.texts
  limit := query.limit.value

/-! ## The clauses -/

/-- The blanks in front of the clauses. -/
def gap : Text :=
  match query.limit with
  | .none | .behind _ _ _ _ => query.whereJoint.before
  | .inFront joint _ _ _ => joint.before

/-- The clauses without the blanks in front of them. -/
def tail : Text :=
  match query.limit with
  | .none => query.whereJoint.written ++ (query.whereJoint.after ++ query.clause)
  | .inFront joint limit _ _ =>
      joint.written ++ ((joint.after ++ Text.ofNat limit ++ query.whereJoint.before) ++
        (query.whereJoint.written ++ (query.whereJoint.after ++ query.clause)))
  | .behind joint limit _ _ =>
      query.whereJoint.written ++ ((query.whereJoint.after ++ query.clause ++ joint.before) ++
        (joint.written ++ (joint.after ++ Text.ofNat limit)))

theorem clauses_eq : query.clauses = query.gap ++ query.tail := by
  rw [clauses, gap, tail]
  cases query.limit with
  | none | inFront | behind => simp only [Joint.text, List.append_assoc]

theorem gap_blank : Blank query.gap := by
  rw [gap]
  cases query.limit with
  | none | behind => exact query.whereJoint.before_blank
  | inFront joint => exact joint.before_blank

theorem gap_ne_nil : query.gap ≠ [] := by
  rw [gap]
  cases query.limit with
  | none | behind => exact query.whereJoint.before_ne_nil
  | inFront joint => exact joint.before_ne_nil

theorem startsClause_tail : StartsClause query.tail := by
  have where_starts (rest : Text) :
      StartsClause (query.whereJoint.written ++ (query.whereJoint.after ++ rest)) :=
    .inl (head?_keywordPositions_word isWord_whereKeyword query.whereJoint.same
      (startsBlank_after query.whereJoint rest))
  rw [tail]
  cases query.limit with
  | none => exact where_starts query.clause
  | inFront joint limit =>
      simp only [List.append_assoc]
      exact .inr (head?_keywordPositions_word isWord_limitKeyword joint.same
        (startsBlank_after joint _))
  | behind joint limit =>
      simp only [List.append_assoc]
      exact where_starts _

theorem texts_eq :
    query.texts =
      query.first.text ::
        (query.rest.map fun (joint, condition) => (joint, condition.text)).map (·.2) := by
  simp [texts, conditions]

theorem exists_tail_eq : ∃ body back, query.tail = body ++ back ∧ Trimmed back ∧ back ≠ [] := by
  obtain ⟨body, last, member, split⟩ := exists_join_eq query.first.text
    (query.rest.map fun (joint, condition) => (joint, condition.text))
  rw [← texts_eq] at member
  obtain ⟨condition, -, rfl⟩ := List.mem_map.mp member
  have clause_eq : query.clause = body ++ condition.text := split
  obtain ⟨trimmed, ne_nil⟩ := condition.trimmed_text
  rw [tail]
  cases query.limit with
  | none =>
      refine ⟨query.whereJoint.written ++ (query.whereJoint.after ++ body), condition.text, ?_,
        trimmed, ne_nil⟩
      simp only [clause_eq, List.append_assoc]
  | inFront joint limit =>
      refine ⟨joint.written ++ ((joint.after ++ Text.ofNat limit ++ query.whereJoint.before) ++
        (query.whereJoint.written ++ (query.whereJoint.after ++ body))), condition.text, ?_,
        trimmed, ne_nil⟩
      simp only [clause_eq, List.append_assoc]
  | behind joint limit =>
      have digits := Text.isWord_ofNat limit
      refine ⟨query.whereJoint.written ++
        ((query.whereJoint.after ++ query.clause ++ joint.before) ++
          (joint.written ++ joint.after)), Text.ofNat limit, ?_, trimmed_of_isWord digits,
        digits.ne_nil⟩
      simp only [List.append_assoc]

/-- The names and the source are read, whatever clauses follow them. -/
theorem parse_text :
    parse query.text =
      .ok
        { fields := query.names
          source := query.source
          conditions := tailConditions query.tail
          limit := tailLimit query.tail } := by
  obtain ⟨body, back, split, back_trimmed, back_ne_nil⟩ := query.exists_tail_eq
  rw [text, parse_blank_append_blank query.lead_blank query.trail_blank, clauses_eq]
  exact query.toFront.parse_append query.gap_blank query.gap_ne_nil query.startsClause_tail split
    back_trimmed back_ne_nil

end WrittenQuery

end ProxyHistory.Query
