import ProxyHistory.Proofs.Condition.Scanned
import ProxyHistory.Proofs.Query.Clauses
import ProxyHistory.Proofs.Query.Joined
import ProxyHistory.Proofs.Query.Literals
import ProxyHistory.Proofs.Text.Avoids

/-!
# The parts of a query

With any blanks around the keywords and any letter case of them, the names and the source of a query
are read back, whatever clauses follow, and so are its conditions and its limit, in either order.
-/

namespace ProxyHistory.Query

open Text (Blank Trimmed sameIgnoringCase)

/-- A name that can be selected. -/
structure IsSelectable (name : Text) : Prop where
  listed : IsListed name
  plain : ∀ c ∈ name, isQuote c = false
  /-- The name does not hold FROM. -/
  whole : keywordPositions fromKeyword name = []

/-- A name that can be a source. -/
structure IsSource (name : Text) : Prop where
  ne_nil : name ≠ []
  trimmed : Trimmed name
  plain : ∀ c ∈ name, isQuote c = false
  /-- The name holds neither WHERE nor LIMIT. -/
  whole : keywordPositions whereKeyword name = [] ∧ keywordPositions limitKeyword name = []

/-- The keyword with the blanks around it. -/
def Joint.text {word : Text} (joint : Joint word) : Text :=
  joint.before ++ joint.written ++ joint.after

/-- A keyword between single spaces. -/
def Joint.spaced (word : Text) : Joint word where
  before := [' ']
  written := word
  after := [' ']
  before_blank := Text.blank_space
  before_ne_nil := List.cons_ne_nil _ _
  same := Text.sameIgnoringCase_self word
  after_blank := Text.blank_space
  after_ne_nil := List.cons_ne_nil _ _

/-! ## The front -/

/-- The parts of a query up to its source, and the way to write them. -/
structure Front where
  /-- SELECT as written. -/
  selectWritten : Text
  selectSame : sameIgnoringCase selectWritten selectKeyword = true
  /-- The blanks behind SELECT. -/
  afterSelect : Text
  afterSelect_blank : Blank afterSelect
  afterSelect_ne_nil : afterSelect ≠ []
  /-- The selected names. -/
  names : List Text
  names_ne_nil : names ≠ []
  isSelectable : ∀ name ∈ names, IsSelectable name
  /-- FROM as written. -/
  fromJoint : Joint fromKeyword
  /-- The source. -/
  source : Text
  isSource : IsSource source

namespace Front

/-- A front with single spaces. -/
def spaced (names : List Text) (names_ne_nil : names ≠ [])
    (isSelectable : ∀ name ∈ names, IsSelectable name) (source : Text) (isSource : IsSource source) :
    Front where
  selectWritten := selectKeyword
  selectSame := Text.sameIgnoringCase_self selectKeyword
  afterSelect := [' ']
  afterSelect_blank := Text.blank_space
  afterSelect_ne_nil := List.cons_ne_nil _ _
  names := names
  names_ne_nil := names_ne_nil
  isSelectable := isSelectable
  fromJoint := .spaced fromKeyword
  source := source
  isSource := isSource

variable (front : Front)

/-- The written form of the front. -/
def text : Text :=
  front.selectWritten ++ front.afterSelect ++ List.intercalate [','] front.names ++
    front.fromJoint.text ++ front.source

theorem names_plain : ∀ c ∈ List.intercalate [','] front.names, isQuote c = false :=
  Text.forall_mem_intercalate (by decide) fun name member => (front.isSelectable name member).plain

/-- The header with blanks behind the source. -/
def header {gap : Text} (gap_blank : Blank gap) (gap_ne_nil : gap ≠ []) : Header where
  selectWritten := front.selectWritten
  list := front.afterSelect ++ List.intercalate [','] front.names ++ front.fromJoint.before
  fromWritten := front.fromJoint.written
  name := front.fromJoint.after ++ front.source ++ gap
  selectSame := front.selectSame
  fromSame := front.fromJoint.same
  list_starts := by
    rw [List.append_assoc]
    exact (StartsBlank.of_blank front.afterSelect_blank).append_of_ne_nil front.afterSelect_ne_nil _
  list_ne_nil := by simp [front.afterSelect_ne_nil]
  list_settled := by
    have closed : Closed (front.afterSelect ++ List.intercalate [','] front.names) := by
      apply (closed_plain_append (plain_of_blank front.afterSelect_blank) _).mpr
      exact closed_of_plain front.names_plain
    exact closed.settled_append front.fromJoint.before_blank front.fromJoint.before_ne_nil
  list_whole := by
    have absent := keywordPositions_intercalate isWord_fromKeyword (by decide)
      (fun name member => (front.isSelectable name member).plain)
      (fun name member => (front.isSelectable name member).whole)
    rw [keywordPositions_append_blank isWord_fromKeyword _ front.fromJoint.before_blank,
      keywordPositions_blank_append isWord_fromKeyword front.afterSelect_blank, absent,
      List.map_nil]
  name_starts := by
    rw [List.append_assoc]
    exact startsBlank_after front.fromJoint _
  name_ne_nil := by simp [front.fromJoint.after_ne_nil]
  name_settled := by
    have closed : Closed (front.fromJoint.after ++ front.source) := by
      apply (closed_plain_append (plain_of_blank front.fromJoint.after_blank) _).mpr
      exact closed_of_plain front.isSource.plain
    exact closed.settled_append gap_blank gap_ne_nil
  name_whole := by
    obtain ⟨noWhere, noLimit⟩ := front.isSource.whole
    constructor
    · rw [keywordPositions_append_blank isWord_whereKeyword _ gap_blank,
        keywordPositions_blank_append isWord_whereKeyword front.fromJoint.after_blank, noWhere,
        List.map_nil]
    · rw [keywordPositions_append_blank isWord_limitKeyword _ gap_blank,
        keywordPositions_blank_append isWord_limitKeyword front.fromJoint.after_blank, noLimit,
        List.map_nil]

theorem parse_append {gap tail body back : Text} (gap_blank : Blank gap) (gap_ne_nil : gap ≠ [])
    (starts : StartsClause tail) (split : tail = body ++ back) (back_trimmed : Trimmed back)
    (back_ne_nil : back ≠ []) :
    parse (front.text ++ (gap ++ tail)) =
      .ok
        { fields := front.names
          source := front.source
          conditions := tailConditions tail
          limit := tailLimit tail } := by
  let header := front.header gap_blank gap_ne_nil
  have text_eq : front.text ++ (gap ++ tail) = header.text ++ tail := by
    simp only [text, Joint.text, Header.text, header, Front.header, List.append_assoc]
  have trimmed : Trimmed (header.text ++ tail) := by
    have selectIsWord := isWord_selectKeyword.of_same front.selectSame
    have around := (trimmed_of_isWord selectIsWord).append_append back_trimmed selectIsWord.ne_nil
      back_ne_nil (header.list ++ (header.fromWritten ++ header.name) ++ body)
    rw [split]
    simpa only [Header.text, header, Front.header, List.append_assoc] using around
  have names_eq : readFields header.list = front.names :=
    readFields_intercalate front.names_ne_nil
      (fun name member => (front.isSelectable name member).listed) front.afterSelect_blank
      front.fromJoint.before_blank
  have source_eq : Text.trim header.name = front.source :=
    Text.trim_around front.fromJoint.after_blank gap_blank front.isSource.trimmed
  have read := Header.parse_append header tail trimmed starts
    (by rw [names_eq]; exact front.names_ne_nil) (by rw [source_eq]; exact front.isSource.ne_nil)
  rw [names_eq, source_eq] at read
  rw [text_eq, read]

end Front

theorem parse_blank_append_blank {before after : Text} (before_blank : Blank before)
    (after_blank : Blank after) (text : Text) : parse (before ++ text ++ after) = parse text := by
  rw [parse, Text.trim_blank_append_blank before_blank after_blank, ← parse]

/-! ## The clauses -/

section Joints

variable (whereJoint : Joint whereKeyword) (limitJoint : Joint limitKeyword) {clause : Text}

theorem fragments_after : fragments (whereJoint.after ++ clause) = fragments clause := by
  simpa using fragments_blank_append_blank whereJoint.after_blank Text.Blank.nil clause

theorem tail_of_conditions (unlimited : keywordPositions limitKeyword clause = []) :
    tailConditions (whereJoint.written ++ (whereJoint.after ++ clause)) = fragments clause ∧
      tailLimit (whereJoint.written ++ (whereJoint.after ++ clause)) = 0 := by
  have absent : keywordPositions limitKeyword (whereJoint.after ++ clause) = [] := by
    rw [keywordPositions_blank_append isWord_limitKeyword whereJoint.after_blank, unlimited,
      List.map_nil]
  obtain ⟨conditions_read, limit_read⟩ := tail_of_where whereJoint.same
    (startsBlank_after whereJoint clause) absent
  rw [conditions_read, limit_read, fragments_after]
  exact ⟨rfl, rfl⟩

theorem tail_of_conditions_literal (limit : Nat)
    (unlimited : keywordPositions limitKeyword clause = []) (closed : Closed clause) :
    tailConditions
        (whereJoint.written ++ ((whereJoint.after ++ clause ++ limitJoint.before) ++
          (limitJoint.written ++ (limitJoint.after ++ Text.ofNat limit)))) = fragments clause ∧
      tailLimit
        (whereJoint.written ++ ((whereJoint.after ++ clause ++ limitJoint.before) ++
          (limitJoint.written ++ (limitJoint.after ++ Text.ofNat limit)))) =
        readLimit (Text.ofNat limit) := by
  have digits := Text.isWord_ofNat limit
  have starts : StartsBlank (whereJoint.after ++ clause ++ limitJoint.before) := by
    rw [List.append_assoc]
    exact startsBlank_after whereJoint _
  have closedBehind : Closed (whereJoint.after ++ clause) :=
    (closed_plain_append (plain_of_blank whereJoint.after_blank) _).mpr closed
  have absent : keywordPositions limitKeyword
      (whereJoint.after ++ clause ++ limitJoint.before) = [] := by
    rw [keywordPositions_append_blank isWord_limitKeyword _ limitJoint.before_blank,
      keywordPositions_blank_append isWord_limitKeyword whereJoint.after_blank, unlimited,
      List.map_nil]
  obtain ⟨conditions_read, limit_read⟩ := tail_of_where_limit whereJoint.same limitJoint.same
    starts (closedBehind.settled_append limitJoint.before_blank limitJoint.before_ne_nil)
    (by simp [whereJoint.after_ne_nil]) (startsBlank_after limitJoint (Text.ofNat limit)) absent
  rw [conditions_read, limit_read,
    fragments_blank_append_blank whereJoint.after_blank limitJoint.before_blank,
    Text.trim_behind limitJoint.after_blank (trimmed_of_isWord digits)]
  exact ⟨rfl, rfl⟩

/-- A limit behind such conditions is read back if it is an integer of 64 bits. -/
theorem tail_of_conditions_limit {limit : Nat} (below : limit < 2 ^ 63)
    (unlimited : keywordPositions limitKeyword clause = []) (closed : Closed clause) :
    tailConditions
        (whereJoint.written ++ ((whereJoint.after ++ clause ++ limitJoint.before) ++
          (limitJoint.written ++ (limitJoint.after ++ Text.ofNat limit)))) = fragments clause ∧
      tailLimit
        (whereJoint.written ++ ((whereJoint.after ++ clause ++ limitJoint.before) ++
          (limitJoint.written ++ (limitJoint.after ++ Text.ofNat limit)))) = limit := by
  have read := tail_of_conditions_literal whereJoint limitJoint limit unlimited closed
  rwa [readLimit_ofNat below] at read

/-- Conditions behind a limit are read to their end, whatever they hold. -/
theorem tail_of_limit_conditions {limit : Nat} (below : limit < 2 ^ 63) :
    tailConditions
        (limitJoint.written ++ ((limitJoint.after ++ Text.ofNat limit ++ whereJoint.before) ++
          (whereJoint.written ++ (whereJoint.after ++ clause)))) = fragments clause ∧
      tailLimit
        (limitJoint.written ++ ((limitJoint.after ++ Text.ofNat limit ++ whereJoint.before) ++
          (whereJoint.written ++ (whereJoint.after ++ clause)))) = limit := by
  have digits := Text.isWord_ofNat limit
  have starts : StartsBlank (limitJoint.after ++ Text.ofNat limit ++ whereJoint.before) := by
    rw [List.append_assoc]
    exact startsBlank_after limitJoint _
  have closed : Closed (limitJoint.after ++ Text.ofNat limit) :=
    (closed_plain_append (plain_of_blank limitJoint.after_blank) _).mpr
      (closed_of_plain fun c member => (digits.plain c member).2)
  have absent : keywordPositions whereKeyword
      (limitJoint.after ++ Text.ofNat limit ++ whereJoint.before) = [] := by
    rw [keywordPositions_append_blank isWord_whereKeyword _ whereJoint.before_blank,
      keywordPositions_blank_append isWord_whereKeyword limitJoint.after_blank,
      Condition.keywordPositions_literal isKeyword_where digits.ne_nil fun c member =>
        Text.isDecimalDigit_of_isDigit (Text.isDigit_of_mem_ofNat member), List.map_nil]
  obtain ⟨conditions_read, limit_read⟩ := tail_of_limit_where whereJoint.same limitJoint.same
    (startsBlank_after whereJoint clause) starts
    (closed.settled_append whereJoint.before_blank whereJoint.before_ne_nil)
    (by simp [limitJoint.after_ne_nil]) absent
  rw [conditions_read, limit_read, fragments_after,
    Text.trim_around limitJoint.after_blank whereJoint.before_blank (trimmed_of_isWord digits),
    readLimit_ofNat below]
  exact ⟨rfl, rfl⟩

end Joints

end ProxyHistory.Query
