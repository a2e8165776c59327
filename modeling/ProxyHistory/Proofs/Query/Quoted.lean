import ProxyHistory.Proofs.Condition.Scanned
import ProxyHistory.Proofs.Query.Clauses
import ProxyHistory.Proofs.Query.Literals

/-!
# Quoted text

A text between two quotes holds no keyword, none runs into it, and behind it the scan stands as it
does behind any other. So where the clauses and the fragments of a text start and end does not
depend on what stands between the quotes.
-/

namespace ProxyHistory.Query

open Text (isBlank Blank Trimmed sameIgnoringCase)
open Condition (quoted)

/-- The scan behind a closing quote. -/
def Scan.afterQuote : Scan where
  quote? := none
  afterBlank := false

/-- Conditions of which at most one holds a quoted text. -/
inductive Template
  /-- None of the conditions holds it. -/
  | fixed (conditions : List Text)
  /-- One condition holds it, between a `start` and a `finish`. -/
  | around (before : List Text) (start finish : Text) (after : List Text)

/-- The conditions with a value between the quotes. -/
def Template.fill (quote : Char) (value : Text) : Template → List Text
  | .fixed conditions => conditions
  | .around before start finish after =>
      before ++ (start ++ (quoted quote value ++ finish)) :: after

/-- The conditions with further ones in front. -/
def Template.behind (skipped : List Text) : Template → Template
  | .fixed conditions => .fixed (skipped ++ conditions)
  | .around before start finish after => .around (skipped ++ before) start finish after

theorem Template.fill_behind (template : Template) (skipped : List Text) (quote : Char)
    (value : Text) :
    (template.behind skipped).fill quote value = skipped ++ template.fill quote value := by
  cases template with
  | fixed conditions => rfl
  | around before start finish after => exact List.append_assoc skipped before _

/-- What stands around the quoted text in its condition stands around it in the query. -/
def Template.Fits (front back : Text) : Template → Prop
  | .fixed _ => True
  | .around _ start finish _ => start <:+ front ∧ finish <+: back

theorem Template.fits_behind {template : Template} {skipped : List Text} {front back : Text} :
    (template.behind skipped).Fits front back ↔ template.Fits front back := by
  cases template with
  | fixed conditions => rfl
  | around before start finish after => rfl

theorem Template.Fits.mono {template : Template} {front back wider longer : Text}
    (fits : template.Fits front back) (front_ends : front <:+ wider)
    (back_begins : back <+: longer) : template.Fits wider longer := by
  cases template with
  | fixed conditions => trivial
  | around before start finish after =>
      exact ⟨fits.1.trans front_ends, fits.2.trans back_begins⟩

section Quote

variable {word : Text} (isWord : IsWord word) {quote : Char} (isQuote : isQuote quote)

include isQuote

/-- Behind a quoted text it does not matter any more what stood in it. -/
theorem Scan.run_quoted {left value : Text} (closed : Closed left) (unclosed : quote ∉ value) :
    Scan.start.run (left ++ quoted quote value) = Scan.afterQuote := by
  have opened : ((Scan.start.run left).step quote).quote? = some quote := by
    have outside : (Scan.start.run left).quote? = none := closed
    simp [Scan.step, outside, isQuote]
  have inside := Scan.quote?_run_of_open opened unclosed
  rw [quoted, Scan.run_append, Scan.run_cons, Scan.run_append, Scan.run_cons, Scan.run_nil,
    Scan.step, inside, Scan.afterQuote, not_isBlank_of_isQuote isQuote]
  simp

include isWord

theorem startsWithWord_quote_iff {left right : Text} :
    startsWithWord word (left ++ quote :: right) = true ↔
      ∃ written rest, left = written ++ rest ∧ sameIgnoringCase written word = true ∧
        StartsBlank rest ∧ rest ≠ [] := by
  have notBlank := not_isBlank_of_isQuote isQuote
  rw [startsWithWord_iff_exists]
  constructor
  · rintro ⟨written, rest, split, same, starts⟩
    have plain := (isWord.of_same same).plain
    rcases List.append_eq_append_iff.mp split with ⟨more, rfl, later⟩ | ⟨more, rfl, later⟩
    · cases more with
      | nil =>
          rw [List.nil_append] at later
          have blank := starts quote (by simp [← later])
          rw [notBlank] at blank
          contradiction
      | cons c more =>
          obtain ⟨rfl, -⟩ := List.cons.inj later
          have noQuote := (plain quote (by simp)).2
          rw [isQuote] at noQuote
          contradiction
    · cases more with
      | nil =>
          have blank := starts quote (by simp [later])
          rw [notBlank] at blank
          contradiction
      | cons c more =>
          exact ⟨written, c :: more, rfl, same, fun d head => starts d (by simpa [later] using head),
            List.cons_ne_nil c more⟩
  · rintro ⟨written, rest, rfl, same, starts, ne_nil⟩
    exact ⟨written, rest ++ quote :: right, List.append_assoc _ _ _, same,
      starts.append_of_ne_nil ne_nil _⟩

/-- No word runs over a quote, so what stands behind it does not matter for the words in front. -/
theorem occurrences_append_quote (scan : Scan) (left right : Text) :
    occurrences word scan (left ++ quote :: right) =
      occurrences word scan (left ++ [quote]) ++
        (occurrences word (scan.run (left ++ [quote])) right).map (· + (left.length + 1)) := by
  induction left generalizing scan with
  | nil =>
      simp [occurrences, startsWithWord_quote_cons isWord isQuote]
  | cons c rest induction =>
      have starts_eq : startsWithWord word (c :: (rest ++ quote :: right)) =
          startsWithWord word (c :: (rest ++ [quote])) := by
        rw [Bool.eq_iff_iff, ← List.cons_append, ← List.cons_append,
          startsWithWord_quote_iff isWord isQuote, startsWithWord_quote_iff isWord isQuote]
      have later_eq : (occurrences word (scan.step c) (rest ++ quote :: right)).map (· + 1) =
          (occurrences word (scan.step c) (rest ++ [quote])).map (· + 1) ++
            (occurrences word (scan.run (c :: rest ++ [quote])) right).map
              (· + ((c :: rest).length + 1)) := by
        rw [induction (scan.step c), List.map_append, List.map_map]
        rfl
      rw [List.cons_append, occurrences, starts_eq, later_eq, List.cons_append, occurrences]
      split
      · rw [List.cons_append]
      · rfl

/-- The occurrences of a word around a quoted text do not depend on what stands in it, except that
those behind it move by its length. -/
theorem keywordPositions_quoted {left value : Text} (closed : Closed left) (unclosed : quote ∉ value)
    (right : Text) :
    keywordPositions word (left ++ (quoted quote value ++ right)) =
      keywordPositions word (left ++ [quote]) ++
        (occurrences word Scan.afterQuote right).map
          (· + (left ++ quoted quote value).length) := by
  have opened : (Scan.start.run (left ++ [quote])).quote? = some quote := by
    have outside : (Scan.start.run left).quote? = none := closed
    simp [Scan.step, outside, isQuote]
  have whole : left ++ (quoted quote value ++ right) =
      left ++ quote :: (value ++ quote :: right) := by
    simp [quoted]
  have after : (Scan.start.run (left ++ [quote])).run (value ++ [quote]) = Scan.afterQuote := by
    rw [← Scan.run_quoted isQuote closed unclosed, ← Scan.run_append]
    simp [quoted]
  rw [keywordPositions, whole, occurrences_append_quote isWord isQuote,
    occurrences_append_quote isWord isQuote _ value, occurrences_of_quoted opened unclosed, after,
    List.nil_append, List.map_map, keywordPositions]
  congr 2
  funext position
  simp [quoted]
  omega

theorem exists_before_quote {left front written rest : Text}
    (split : left ++ [quote] = front ++ (written ++ rest))
    (same : sameIgnoringCase written word = true) (starts : StartsBlank rest) :
    ∃ behind, left = front ++ (written ++ behind) ∧ StartsBlank behind ∧ behind ≠ [] := by
  obtain ⟨written_ne_nil, plain⟩ := isWord.of_same same
  have last : ∀ c ∈ (front ++ (written ++ rest)).getLast?, c = quote := by
    intro c inLast
    rw [← split, List.getLast?_concat] at inLast
    exact (Option.some.inj inLast).symm
  rcases List.eq_nil_or_concat rest with rfl | ⟨behind, c, rfl⟩
  · obtain ⟨c, inWritten⟩ := Option.ne_none_iff_exists'.mp (mt List.getLast?_eq_none_iff.mp
      written_ne_nil)
    rw [List.append_nil, List.getLast?_append_of_ne_nil _ written_ne_nil] at last
    have noQuote := (plain c (List.mem_of_getLast? inWritten)).2
    rw [last c inWritten, isQuote] at noQuote
    contradiction
  · rw [List.concat_eq_append, ← List.append_assoc, ← List.append_assoc] at split
    obtain ⟨left_eq, same_last⟩ := List.append_inj' split rfl
    rw [List.concat_eq_append] at starts
    refine ⟨behind, by rw [left_eq, List.append_assoc], ?_⟩
    cases behind with
    | nil =>
        have blank := starts c rfl
        rw [← (List.cons.inj same_last).1, not_isBlank_of_isQuote isQuote] at blank
        contradiction
    | cons d others => exact ⟨starts, List.cons_ne_nil d others⟩

/-- The first occurrence of a word around a quoted text stands in front of it, or behind it, or
there is none; which of these it is does not depend on what stands between the quotes. -/
theorem quoted_cases {left : Text} (closed : Closed left) (right : Text) :
    (∃ front written rest, left = front ++ (written ++ rest) ∧ Settled front ∧
        keywordPositions word front = [] ∧ sameIgnoringCase written word = true ∧
        StartsBlank rest ∧ rest ≠ []) ∨
      (∃ front written rest, right = front ++ (written ++ rest) ∧
        sameIgnoringCase written word = true ∧ StartsBlank rest ∧
        ∀ value, quote ∉ value →
          Settled (left ++ (quoted quote value ++ front)) ∧
            keywordPositions word (left ++ (quoted quote value ++ front)) = []) ∨
      ∀ value, quote ∉ value →
        keywordPositions word (left ++ (quoted quote value ++ right)) = [] := by
  cases inFront : keywordPositions word (left ++ [quote]) with
  | cons first later =>
      obtain ⟨front, written, rest, split, -, settled, absent, same, starts⟩ :=
        exists_of_keywordPositions_eq_cons isWord inFront
      obtain ⟨behind, rfl, behind_starts, ne_nil⟩ :=
        exists_before_quote isWord isQuote split same starts
      exact .inl ⟨front, written, behind, rfl, settled, absent, same, behind_starts, ne_nil⟩
  | nil =>
      refine .inr ?_
      cases behind : occurrences word Scan.afterQuote right with
      | cons first later =>
          obtain ⟨front, written, rest, rfl, -, restarts, absent, same, starts⟩ :=
            exists_of_occurrences_eq_cons isWord behind
          refine .inl ⟨front, written, rest, rfl, same, starts, fun value unclosed => ⟨?_, ?_⟩⟩
          · rw [Settled, ← List.append_assoc, Scan.run_append,
              Scan.run_quoted isQuote closed unclosed, restarts]
          · rw [keywordPositions_quoted isWord isQuote closed unclosed, inFront, absent]
            rfl
      | nil =>
          refine .inr fun value unclosed => ?_
          rw [keywordPositions_quoted isWord isQuote closed unclosed, inFront, behind]
          rfl

omit isWord

theorem trim_quoted (left value right : Text) :
    Text.trim (left ++ (quoted quote value ++ right)) =
      Text.trimStart left ++ (quoted quote value ++ Text.trimEnd right) :=
  Text.trim_append_append (Condition.trimmed_quoted isQuote value) (List.cons_ne_nil _ _) left right

/-- One fragment of a clause holds the quoted text in it; the others do not depend on it. -/
theorem exists_fragments_quoted {left : Text} (closed : Closed left) (right : Text) :
    ∃ template : Template, template.Fits left right ∧
      ∀ value, quote ∉ value →
        fragments (left ++ (quoted quote value ++ right)) = template.fill quote value := by
  induction length : left.length using Nat.strong_induction_on generalizing left with
  | _ bound induction =>
      subst length
      rcases quoted_cases isWord_andKeyword isQuote closed right with
        ⟨front, written, rest, rfl, settled, absent, same, starts, ne_nil⟩ |
          ⟨front, written, rest, rfl, same, starts, behind⟩ | whole
      · -- The first joining word stands in front, so the text behind it is shorter.
        have written_isWord := isWord_andKeyword.of_same same
        have rest_closed : Closed rest := by
          rw [Closed, Scan.run_append, settled] at closed
          exact (closed_plain_append (fun c member => (written_isWord.plain c member).2) rest).mp
            closed
        have shorter : rest.length < (front ++ (written ++ rest)).length := by
          have := List.length_pos_iff.mpr written_isWord.ne_nil
          simp only [List.length_append]
          omega
        obtain ⟨template, fits, fragments_eq⟩ :=
          induction rest.length shorter rest_closed rfl
        let skipped := [Text.trim front].filter (!·.isEmpty)
        have rest_suffix : rest <:+ front ++ (written ++ rest) :=
          (List.suffix_append written rest).trans (List.suffix_append front _)
        refine ⟨template.behind skipped,
          Template.fits_behind.mpr (fits.mono rest_suffix List.prefix_rfl),
          fun value unclosed => ?_⟩
        rw [List.append_assoc, List.append_assoc,
          fragments_append settled absent same (starts.append_of_ne_nil ne_nil _),
          fragments_eq value unclosed, Template.fill_behind]
      · refine ⟨.around [] (Text.trimStart left) (Text.trimEnd front) (fragments rest),
          ⟨List.dropWhile_suffix isBlank,
            (List.rdropWhile_prefix isBlank front).trans (List.prefix_append front _)⟩,
          fun value unclosed => ?_⟩
        obtain ⟨settled, absent⟩ := behind value unclosed
        have text_eq : left ++ (quoted quote value ++ (front ++ (written ++ rest))) =
            (left ++ (quoted quote value ++ front)) ++ (written ++ rest) := by
          simp only [List.append_assoc]
        rw [text_eq, fragments_append settled absent same starts, trim_quoted isQuote]
        simp [quoted, Template.fill]
      · refine ⟨.around [] (Text.trimStart left) (Text.trimEnd right) [],
          ⟨List.dropWhile_suffix isBlank, List.rdropWhile_prefix isBlank right⟩,
          fun value unclosed => ?_⟩
        rw [fragments_of_whole (whole value unclosed), trim_quoted isQuote]
        simp [quoted, Template.fill]

/-- The conditions and the limit behind WHERE do not depend on a quoted text among them, except for
one condition that holds it. -/
theorem exists_tail_quoted {whereWritten clause : Text}
    (whereSame : sameIgnoringCase whereWritten whereKeyword = true) (starts : StartsBlank clause)
    (ne_nil : clause ≠ []) (closed : Closed clause) (back : Text) :
    ∃ (template : Template) (limit : Nat), template.Fits clause back ∧
      ∀ value, quote ∉ value →
        tailConditions (whereWritten ++ (clause ++ (quoted quote value ++ back))) =
            template.fill quote value ∧
          tailLimit (whereWritten ++ (clause ++ (quoted quote value ++ back))) = limit := by
  rcases quoted_cases isWord_limitKeyword isQuote closed back with
    ⟨front, written, rest, rfl, settled, absent, same, rest_starts, rest_ne_nil⟩ |
      ⟨front, written, rest, rfl, same, rest_starts, behind⟩ | unlimited
  · -- The quoted text stands in the limit, which is no number then.
    obtain ⟨front_starts, front_ne_nil⟩ := starts.of_word (isWord_limitKeyword.of_same same)
    refine ⟨.fixed (fragments front), 1, trivial, fun value _ => ?_⟩
    have one : readLimit (Text.trim (rest ++ (quoted quote value ++ back))) = 1 := by
      rw [trim_quoted isQuote]
      exact readLimit_of_quote isQuote (by simp [quoted])
    rw [List.append_assoc, List.append_assoc, ← one]
    exact tail_of_where_limit whereSame same front_starts settled front_ne_nil
      (rest_starts.append_of_ne_nil rest_ne_nil _) absent
  · obtain ⟨template, fits, fragments_eq⟩ := exists_fragments_quoted isQuote closed front
    refine ⟨template, readLimit (Text.trim rest),
      fits.mono List.suffix_rfl (List.prefix_append front _), fun value unclosed => ?_⟩
    obtain ⟨settled, absent⟩ := behind value unclosed
    have text_eq : clause ++ (quoted quote value ++ (front ++ (written ++ rest))) =
        (clause ++ (quoted quote value ++ front)) ++ (written ++ rest) := by
      simp only [List.append_assoc]
    rw [text_eq, ← fragments_eq value unclosed]
    exact tail_of_where_limit whereSame same (starts.append_of_ne_nil ne_nil _) settled
      (by simp [ne_nil]) rest_starts absent
  · obtain ⟨template, fits, fragments_eq⟩ := exists_fragments_quoted isQuote closed back
    refine ⟨template, 0, fits, fun value unclosed => ?_⟩
    rw [← fragments_eq value unclosed]
    exact tail_of_where whereSame (starts.append_of_ne_nil ne_nil _) (unlimited value unclosed)

end Quote

end ProxyHistory.Query
