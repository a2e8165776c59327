import Mathlib.Data.List.Find
import Mathlib.Order.MinMax
import ProxyHistory.Proofs.Query.Clauses
import ProxyHistory.Proofs.Text.Slices

/-!
# Queries in slices

A query can be read by byte offsets as well, where each part is a slice that exists only within the
text and between boundaries of characters. No such reading ever asks for a slice that is not there:
keywords that differ neither overlap nor touch, and each is made of characters of one byte. What is
read that way is what the characters say.
-/

namespace ProxyHistory

namespace Query

open Text (byteLength slice? offsetOf isBlank sameIgnoringCase)

/-! ## Reading by offsets -/

/-- Whether a word stands at an offset, up to a blank or the end. The word is looked for where there
is a slice of its length; the text behind it has to be there then. -/
def wordAt? (word text : Text) (offset : Nat) : Option Bool :=
  match slice? text offset (offset + byteLength word) with
  | none => some false
  | some candidate =>
      if sameIgnoringCase candidate word then
        (slice? text (offset + byteLength word) (byteLength text)).map fun rest =>
          rest.head?.all isBlank
      else
        some false

/-- Whether a word stands as a keyword at the offset of a character that the scan has come to. -/
def keywordAt? (word text : Text) (scan : Scan) (offset : Nat) (c : Char) : Option Bool :=
  if scan.atWordStart && !isQuote c then wordAt? word text offset else some false

/-- The offsets at which a word stands as a keyword, in the part of the text from an offset on. -/
def occurrences? (word text : Text) : Scan → Nat → Text → Option (List Nat)
  | _, _, [] => some []
  | scan, offset, c :: rest => do
      let here ← keywordAt? word text scan offset c
      let later ← occurrences? word text (scan.step c) (offset + byteLength [c]) rest
      return if here then offset :: later else later

/-- The offsets at which a word stands as a keyword of a whole text. -/
def keywordOffsets? (word text : Text) : Option (List Nat) :=
  occurrences? word text .start 0 text

/-- The slice of a text between the offsets of a span. -/
def part? (text : Text) (span : Span) : Option Text :=
  slice? text span.start span.stop

/-- The conditions of a clause. -/
def fragments? (clause : Text) : Option (List Text) := do
  let offsets ← keywordOffsets? andKeyword clause
  let parts ← (gaps (byteLength andKeyword) (byteLength clause) 0 offsets).mapM (part? clause)
  return (parts.map Text.trim).filter (!·.isEmpty)

/-- Find the clauses of a text. -/
def Clauses.locate? (text : Text) : Option (Except QueryError Clauses) := do
  let selects ← keywordOffsets? selectKeyword text
  let froms ← keywordOffsets? fromKeyword text
  let wheres ← keywordOffsets? whereKeyword text
  let limits ← keywordOffsets? limitKeyword text
  return match selects.head?, froms.head? with
    | some selectAt, some fromAt =>
        if selectAt < fromAt then
          .ok {
            selectAt
            fromAt
            whereAt? := wheres.find? (fromAt ≤ ·)
            limitAt? := limits.find? (fromAt ≤ ·)
            length := byteLength text }
        else
          .error (.malformed .selectAfterFrom)
    | _, _ => .error (.malformed .missingSelectOrFrom)

/-- What is read of the slice of a clause, if there is that clause. -/
def readPart? {α : Type} (text : Text) (read : Text → Option α) (missing : α) :
    Option Span → Option α
  | none => some missing
  | some span => (part? text span).bind read

/-- Take a query text apart by slices. There is no result if one of them is not there. -/
def parse? (input : Text) : Option (Except QueryError Query) := do
  let text := Text.trim input
  match ← Clauses.locate? text with
  | .error reason => return .error reason
  | .ok clauses =>
      let fields := readFields (← part? text clauses.fieldSpan)
      if fields.isEmpty then
        return .error (.malformed .noFields)
      let source := Text.trim (← part? text clauses.sourceSpan)
      if source.isEmpty then
        return .error (.malformed .missingSource)
      let conditions ← readPart? text fragments? [] clauses.conditionSpan?
      let limit ← readPart? text (fun literal => some (readLimit (Text.trim literal))) 0
        clauses.limitSpan?
      return .ok { fields, source, conditions, limit }

/-! ## Words -/

section Words

variable {word : Text}

theorem wordAt?_eq (front rest : Text) :
    wordAt? word (front ++ rest) (byteLength front) = some (startsWithWord word rest) := by
  have absent (unfit : ∀ written back, rest = written ++ back →
      ¬ sameIgnoringCase written word = true) : startsWithWord word rest = false := by
    rw [Bool.eq_false_iff]
    intro starts
    obtain ⟨written, back, split, same, -⟩ := startsWithWord_iff_exists.mp starts
    exact unfit written back split same
  have behind {written back : Text} (split : rest = written ++ back)
      (same : sameIgnoringCase written word = true) :
      slice? (front ++ rest) (byteLength front) (byteLength front + byteLength word) =
        some written :=
    Text.slice?_behind_eq_some_iff.mpr ⟨back, split, by rw [Text.byteLength_eq_of_same same]⟩
  rw [wordAt?]
  cases found : slice? (front ++ rest) (byteLength front) (byteLength front + byteLength word) with
  | none =>
      refine congrArg some (absent fun written back split same => ?_).symm
      rw [behind split same] at found
      contradiction
  | some candidate =>
      obtain ⟨back, rest_eq, length_eq⟩ := Text.slice?_behind_eq_some_iff.mp found
      dsimp only
      split
      · rename_i same
        have back_eq : slice? (front ++ rest) (byteLength front + byteLength word)
            (byteLength (front ++ rest)) = some back := by
          rw [← length_eq, ← Text.byteLength_append, rest_eq, ← List.append_assoc]
          refine Text.slice?_behind_eq_some_iff.mpr ⟨[], (List.append_nil back).symm, ?_⟩
          rw [Text.byteLength_append _ back]
        rw [back_eq, rest_eq, startsWithWord, ← Text.length_eq_of_same same, List.take_left,
          List.drop_left, same]
        rfl
      · rename_i different
        refine congrArg some (absent fun written other split same => ?_).symm
        rw [behind split same] at found
        exact different (Option.some.inj found ▸ same)

variable (isWord : IsWord word)

include isWord

/-- No keyword starts with a quote. -/
theorem keywordAt?_eq (scan : Scan) (front : Text) (c : Char) (rest : Text) :
    keywordAt? word (front ++ c :: rest) scan (byteLength front) c =
      some (scan.atWordStart && startsWithWord word (c :: rest)) := by
  rw [keywordAt?, wordAt?_eq]
  cases scan.atWordStart with
  | false => rfl
  | true =>
      cases quote : isQuote c with
      | false => rfl
      | true =>
          rw [startsWithWord_quote_cons isWord quote]
          rfl

theorem occurrences?_eq (scan : Scan) (front rest : Text) :
    occurrences? word (front ++ rest) scan (byteLength front) rest =
      some ((occurrences word scan rest).map fun position =>
        byteLength front + offsetOf rest position) := by
  induction rest generalizing scan front with
  | nil => rfl
  | cons c rest induction =>
      have later_eq :
          occurrences? word (front ++ c :: rest) (scan.step c) (byteLength front + byteLength [c])
              rest =
            some ((occurrences word (scan.step c) rest).map fun position =>
              byteLength front + offsetOf (c :: rest) (position + 1)) := by
        have moved (position : Nat) :
            offsetOf (c :: rest) (position + 1) = byteLength [c] + offsetOf rest position := by
          rw [Nat.add_comm]
          exact Text.offsetOf_append [c] rest position
        have later := induction (scan.step c) (front ++ [c])
        rw [Text.byteLength_append, List.append_assoc, List.singleton_append] at later
        simpa only [moved, ← Nat.add_assoc] using later
      rw [occurrences?, keywordAt?_eq isWord, Option.bind_eq_bind, Option.bind_some, later_eq,
        Option.bind_eq_bind, Option.bind_some, occurrences]
      split
      · rw [List.map_cons, List.map_map]
        rfl
      · rw [List.map_map]
        rfl

theorem keywordOffsets?_eq (text : Text) :
    keywordOffsets? word text = some ((keywordPositions word text).map (offsetOf text)) := by
  have whole := occurrences?_eq isWord .start [] text
  rw [keywordOffsets?, keywordPositions]
  simpa only [List.nil_append, Text.byteLength_nil, Nat.zero_add] using whole

end Words

/-! ## Spans -/

/-- The span of the offsets of two positions. -/
def Span.atOffsets (span : Span) (text : Text) : Span where
  start := offsetOf text span.start
  stop := offsetOf text span.stop

theorem part?_atOffsets (text : Text) {span : Span} (ordered : span.start ≤ span.stop) :
    part? text (span.atOffsets text) = some (span.of text) :=
  Text.slice?_offsetOf ordered

theorem readPart?_atOffsets {α : Type} {text : Text} {read : Text → Option α} {missing : α}
    {result : Text → α} (reads : ∀ clause, read clause = some (result clause))
    {span? : Option Span} (ordered : ∀ span ∈ span?, span.start ≤ span.stop) :
    readPart? text read missing (span?.map (·.atOffsets text)) =
      some ((span?.map fun span => result (span.of text)).getD missing) := by
  cases span? with
  | none => rfl
  | some span =>
      have there := part?_atOffsets text (ordered span rfl)
      rw [Option.map_some, readPart?, there, Option.bind_some, reads]
      rfl

theorem offsetOf_add_length {word text : Text} {position : Nat} (isWord : IsWord word)
    (single : byteLength word = word.length) (member : position ∈ keywordPositions word text) :
    offsetOf text (position + word.length) = offsetOf text position + word.length := by
  obtain ⟨front, written, rest, rfl, rfl, -, same, -⟩ :=
    (mem_occurrences_iff isWord.ne_nil).mp member
  have front_eq : offsetOf (front ++ (written ++ rest)) front.length = byteLength front := by
    rw [offsetOf, List.take_left]
  rw [Text.offsetOf_append, front_eq, offsetOf, ← Text.length_eq_of_same same, List.take_left,
    Text.byteLength_eq_of_same same, single, Text.length_eq_of_same same]

theorem gaps_atOffsets {text : Text} {width : Nat} (stop start : Nat) {positions : List Nat}
    (even : ∀ position ∈ positions, offsetOf text (position + width) =
      offsetOf text position + width) :
    gaps width (offsetOf text stop) (offsetOf text start) (positions.map (offsetOf text)) =
      (gaps width stop start positions).map (·.atOffsets text) := by
  induction positions generalizing start with
  | nil => rfl
  | cons position positions induction =>
      obtain ⟨first, others⟩ := List.forall_mem_cons.mp even
      rw [List.map_cons, gaps, ← first, induction _ others]
      rfl

theorem ordered_of_mem_fragmentSpans (clause : Text) :
    ∀ span ∈ fragmentSpans clause, span.start ≤ span.stop := by
  induction clause using clause_induction with
  | whole clause absent =>
      rw [fragmentSpans, absent]
      exact List.forall_mem_singleton.mpr (Nat.zero_le _)
  | parted front written rest settled absent same starts induction =>
      rw [fragmentSpans_append settled absent same starts]
      refine List.forall_mem_cons.mpr ⟨Nat.zero_le _, fun moved member => ?_⟩
      obtain ⟨span, inRest, rfl⟩ := List.mem_map.mp member
      exact Nat.add_le_add_right (induction span inRest) _

/-- Every slice between joining words is there. -/
theorem fragments?_eq (clause : Text) : fragments? clause = some (fragments clause) := by
  have single : byteLength andKeyword = andKeyword.length := by decide
  have even : ∀ position ∈ keywordPositions andKeyword clause,
      offsetOf clause (position + andKeyword.length) =
        offsetOf clause position + andKeyword.length :=
    fun _ => offsetOf_add_length isWord_andKeyword single
  have spans_eq : gaps (byteLength andKeyword) (byteLength clause) 0
      ((keywordPositions andKeyword clause).map (offsetOf clause)) =
        (fragmentSpans clause).map (·.atOffsets clause) := by
    rw [single, ← Text.offsetOf_length clause, fragmentSpans, ← gaps_atOffsets _ _ even]
    rfl
  have parts_eq : ((fragmentSpans clause).map (·.atOffsets clause)).mapM (part? clause) =
      some ((fragmentSpans clause).map (·.of clause)) := by
    rw [List.mapM_map]
    exact mapM_eq_some fun span member =>
      part?_atOffsets clause (ordered_of_mem_fragmentSpans clause span member)
  rw [fragments?, keywordOffsets?_eq isWord_andKeyword, Option.bind_eq_bind, Option.bind_some,
    spans_eq, parts_eq, Option.bind_eq_bind, Option.bind_some, List.map_map]
  rfl

/-! ## Clauses -/

/-- The clauses by the offsets of their positions. -/
def Clauses.atOffsets (clauses : Clauses) (text : Text) : Clauses where
  selectAt := offsetOf text clauses.selectAt
  fromAt := offsetOf text clauses.fromAt
  whereAt? := clauses.whereAt?.map (offsetOf text)
  limitAt? := clauses.limitAt?.map (offsetOf text)
  length := offsetOf text clauses.length

theorem Clauses.locate?_eq (text : Text) :
    locate? text = some ((locate text).map (·.atOffsets text)) := by
  have heads (word : Text) : ((keywordPositions word text).map (offsetOf text)).head? =
      (keywordPositions word text).head?.map (offsetOf text) := List.head?_map
  have later {word : Text} (ne_nil : word ≠ []) {fromAt : Nat} (within : fromAt < text.length) :
      ((keywordPositions word text).map (offsetOf text)).find? (offsetOf text fromAt ≤ ·) =
        ((keywordPositions word text).find? (fromAt ≤ ·)).map (offsetOf text) := by
    rw [List.find?_map]
    refine congrArg _ (List.find?_congr fun position member => ?_)
    simp [Text.offsetOf_le_iff (lt_length_of_mem_keywordPositions ne_nil member)]
  simp only [locate?, keywordOffsets?_eq isWord_selectKeyword,
    keywordOffsets?_eq isWord_fromKeyword, keywordOffsets?_eq isWord_whereKeyword,
    keywordOffsets?_eq isWord_limitKeyword, Option.bind_eq_bind, Option.bind_some, Option.pure_def, heads, locate]
  cases selects : (keywordPositions selectKeyword text).head? with
  | none => rfl
  | some selectAt =>
      cases froms : (keywordPositions fromKeyword text).head? with
      | none => rfl
      | some fromAt =>
          have selectWithin := lt_length_of_mem_keywordPositions isWord_selectKeyword.ne_nil
            (List.mem_of_head? selects)
          have fromWithin := lt_length_of_mem_keywordPositions isWord_fromKeyword.ne_nil
            (List.mem_of_head? froms)
          simp only [Option.map_some, Text.offsetOf_lt_iff selectWithin,
            later isWord_whereKeyword.ne_nil fromWithin,
            later isWord_limitKeyword.ne_nil fromWithin]
          split
          · rw [← Text.offsetOf_length]
            rfl
          · rfl

theorem Clauses.stopBefore_atOffsets (clauses : Clauses) {text : Text} {position : Nat}
    (within : position < text.length) (other? : Option Nat) :
    (clauses.atOffsets text).stopBefore (offsetOf text position) (other?.map (offsetOf text)) =
      offsetOf text (clauses.stopBefore position other?) := by
  cases other? with
  | none => rfl
  | some other =>
      by_cases later : position < other <;>
        simp [Clauses.stopBefore, Clauses.atOffsets, Option.filter, Text.offsetOf_lt_iff within,
          later]

theorem Clauses.map_span_atOffsets (clauses : Clauses) {word text : Text} (isWord : IsWord word)
    (single : byteLength word = word.length) {found? : Option Nat}
    (members : ∀ position ∈ found?, position ∈ keywordPositions word text)
    (other? : Option Nat) :
    ((found?.map (offsetOf text)).map fun offset => (⟨offset + word.length,
        (clauses.atOffsets text).stopBefore offset (other?.map (offsetOf text))⟩ : Span)) =
      (found?.map fun position => (⟨position + word.length,
        clauses.stopBefore position other?⟩ : Span)).map (·.atOffsets text) := by
  cases found? with
  | none => rfl
  | some position =>
      have member := members position rfl
      have within := lt_length_of_mem_keywordPositions isWord.ne_nil member
      simp only [Option.map_some, Span.atOffsets, offsetOf_add_length isWord single member,
        Clauses.stopBefore_atOffsets clauses within]

section Located

variable {text : Text} {clauses : Clauses} (located : clauses.Located text)

include located

/-! ### The spans are in order -/

theorem Clauses.Located.ordered_fieldSpan : clauses.fieldSpan.start ≤ clauses.fieldSpan.stop :=
  add_length_le_of_lt isWord_selectKeyword isWord_fromKeyword located.mem_select located.mem_from
    located.ordered

theorem Clauses.Located.from_add_length_le {word : Text} (isWord : IsWord word)
    (different : Text.asciiLower fromKeyword ≠ Text.asciiLower word) {found? : Option Nat}
    (found_eq : found? = (keywordPositions word text).find? (clauses.fromAt ≤ ·)) :
    clauses.fromAt + fromKeyword.length ≤ found?.getD clauses.length := by
  cases found? with
  | none =>
      rw [Option.getD_none, located.length]
      exact add_length_le_length isWord_fromKeyword located.mem_from
  | some position =>
      have member : position ∈ keywordPositions word text :=
        List.mem_of_find?_eq_some found_eq.symm
      have behind : clauses.fromAt ≤ position := by
        simpa using List.find?_some found_eq.symm
      have apart : clauses.fromAt ≠ position := by
        rintro same
        exact not_mem_of_different located.mem_from isWord_fromKeyword different isWord
          (same ▸ member)
      exact add_length_le_of_lt isWord_fromKeyword isWord located.mem_from member
        (Nat.lt_of_le_of_ne behind apart)

theorem Clauses.Located.ordered_sourceSpan :
    clauses.sourceSpan.start ≤ clauses.sourceSpan.stop :=
  Nat.le_min.mpr
    ⟨located.from_add_length_le isWord_whereKeyword (by decide) located.whereAt,
      located.from_add_length_le isWord_limitKeyword (by decide) located.limitAt⟩

theorem Clauses.Located.ordered_of_mem {word other : Text} (isWord : IsWord word)
    (otherIsWord : IsWord other) {found? other? : Option Nat}
    (members : ∀ position ∈ found?, position ∈ keywordPositions word text)
    (otherMembers : ∀ position ∈ other?, position ∈ keywordPositions other text) :
    ∀ span ∈ found?.map fun position =>
        (⟨position + word.length, clauses.stopBefore position other?⟩ : Span),
      span.start ≤ span.stop := by
  intro span found
  obtain ⟨position, found_eq, rfl⟩ := Option.map_eq_some_iff.mp found
  have member := members position found_eq
  change position + word.length ≤ clauses.stopBefore position other?
  rw [Clauses.stopBefore]
  cases kept : other?.filter (position < ·) with
  | none =>
      rw [Option.getD_none, located.length]
      exact add_length_le_length isWord member
  | some otherPosition =>
      obtain ⟨other_eq, behind⟩ := Option.filter_eq_some_iff.mp kept
      exact add_length_le_of_lt isWord otherIsWord member (otherMembers otherPosition other_eq)
        (of_decide_eq_true behind)

/-! ### The spans by offsets -/

theorem Clauses.Located.fieldSpan_atOffsets :
    (clauses.atOffsets text).fieldSpan = clauses.fieldSpan.atOffsets text := by
  rw [Clauses.fieldSpan, Clauses.fieldSpan, Span.atOffsets,
    offsetOf_add_length isWord_selectKeyword (by decide) located.mem_select]
  rfl

theorem Clauses.Located.sourceSpan_atOffsets :
    (clauses.atOffsets text).sourceSpan = clauses.sourceSpan.atOffsets text := by
  rw [Clauses.sourceSpan, Clauses.sourceSpan, Span.atOffsets,
    offsetOf_add_length isWord_fromKeyword (by decide) located.mem_from,
    (Text.monotone_offsetOf text).map_min, ← Option.getD_map (offsetOf text),
    ← Option.getD_map (offsetOf text)]
  rfl

/-! ### What is read of them -/

theorem Clauses.Located.readPart?_conditions :
    readPart? text fragments? [] (clauses.atOffsets text).conditionSpan? =
      some ((clauses.conditionSpan?.map fun span => fragments (span.of text)).getD []) := by
  have spans_eq : (clauses.atOffsets text).conditionSpan? =
      clauses.conditionSpan?.map (·.atOffsets text) :=
    clauses.map_span_atOffsets isWord_whereKeyword (by decide) located.mem_where clauses.limitAt?
  rw [spans_eq]
  exact readPart?_atOffsets fragments?_eq (located.ordered_of_mem isWord_whereKeyword
    isWord_limitKeyword located.mem_where located.mem_limit)

theorem Clauses.Located.readPart?_limit :
    readPart? text (fun literal => some (readLimit (Text.trim literal))) 0
        (clauses.atOffsets text).limitSpan? =
      some ((clauses.limitSpan?.map fun span => readLimit (Text.trim (span.of text))).getD 0) := by
  have spans_eq : (clauses.atOffsets text).limitSpan? =
      clauses.limitSpan?.map (·.atOffsets text) :=
    clauses.map_span_atOffsets isWord_limitKeyword (by decide) located.mem_limit clauses.whereAt?
  rw [spans_eq]
  exact readPart?_atOffsets (fun _ => rfl) (located.ordered_of_mem isWord_limitKeyword
    isWord_whereKeyword located.mem_limit located.mem_where)

end Located

/-! ## Queries -/

/-- What is read by offsets is what is read by positions. -/
theorem parse?_eq (input : Text) : parse? input = some (parse input) := by
  rw [parse?, Clauses.locate?_eq, parse]
  cases locate_eq : Clauses.locate (Text.trim input) with
  | error reason => rfl
  | ok clauses =>
      have located := Clauses.locate_eq_ok_iff.mp locate_eq
      simp only [Except.map, Option.bind_some, located.fieldSpan_atOffsets,
        located.sourceSpan_atOffsets, part?_atOffsets _ located.ordered_fieldSpan,
        part?_atOffsets _ located.ordered_sourceSpan, located.readPart?_conditions,
        located.readPart?_limit, bind, Except.bind]
      split
      · rfl
      · split
        · rfl
        · rfl

/-- A slice is there just if its ends are boundaries of the text in their order, and every slice
that is asked for is there: those of a query text, those of a clause, and what stands behind the
words that could be keywords. -/
theorem parse?_total :
    (∀ text start stop, (slice? text start stop).isSome ↔ Text.InBounds text start stop) ∧
      (∀ clause, fragments? clause = some (fragments clause)) ∧
      ∀ input, parse? input = some (parse input) :=
  ⟨fun _ _ _ => Text.isSome_slice?_iff, fragments?_eq, parse?_eq⟩

end Query

end ProxyHistory
