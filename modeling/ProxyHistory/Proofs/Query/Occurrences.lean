import ProxyHistory.Proofs.Query.Scan

/-!
# Occurrences of a word

Where a word occurs in a text: the text in front of an occurrence is settled, the word stands there
in some letter case, and it ends there. Occurrences in a text made of two parts are those in the
parts, if no word runs over the seam.
-/

namespace ProxyHistory.Query

open Text (isBlank Blank sameIgnoringCase)

theorem occurrences_of_not_afterBlank {word : Text} {scan : Scan}
    (inWord : scan.afterBlank = false) {text : Text}
    (unbroken : ∀ c ∈ text, isBlank c = false) : occurrences word scan text = [] := by
  induction text generalizing scan with
  | nil => rfl
  | cons c rest induction =>
      obtain ⟨head_unbroken, rest_unbroken⟩ := List.forall_mem_cons.mp unbroken
      have inWord_step : (scan.step c).afterBlank = false := head_unbroken
      rw [occurrences, induction inWord_step rest_unbroken]
      simp [Scan.atWordStart, inWord]

theorem occurrences_of_open {word : Text} {scan : Scan} {quote : Char}
    (inside : scan.quote? = some quote) {text : Text} (unclosed : quote ∉ text) :
    occurrences word scan text = [] := by
  induction text generalizing scan with
  | nil => rfl
  | cons c rest induction =>
      rw [List.mem_cons, not_or] at unclosed
      have inside_step : (scan.step c).quote? = some quote := by
        simp [Scan.step, inside, Ne.symm unclosed.1]
      rw [occurrences, induction inside_step unclosed.2]
      simp [Scan.atWordStart, inside]

section Word

variable {word : Text} (isWord : IsWord word)

include isWord

/-- The occurrences in two parts of a text are those in the first, and those that the second has
where the scan of the first ends. -/
theorem occurrences_append (scan : Scan) {left right : Text} (apart : SetApart left right) :
    occurrences word scan (left ++ right) =
      occurrences word scan left ++
        (occurrences word (scan.run left) right).map (· + left.length) := by
  induction left generalizing scan with
  | nil => simp [occurrences]
  | cons c rest induction =>
      have starts_eq := startsWithWord_append isWord apart (List.cons_ne_nil c rest)
      rw [List.cons_append] at starts_eq
      have later_eq :
          (occurrences word (scan.step c) (rest ++ right)).map (· + 1) =
            (occurrences word (scan.step c) rest).map (· + 1) ++
              (occurrences word (scan.run (c :: rest)) right).map (· + (c :: rest).length) := by
        rw [induction (scan.step c) apart.tail, List.map_append, List.map_map]
        rfl
      rw [List.cons_append, occurrences, starts_eq, later_eq, occurrences]
      split <;> rfl

theorem occurrences_of_blank (scan : Scan) {blanks : Text} (blank : Blank blanks) :
    occurrences word scan blanks = [] := by
  induction blanks generalizing scan with
  | nil => rfl
  | cons c rest induction =>
      rw [occurrences, startsWithWord_blank_cons isWord blank.of_mem.1, induction _ blank.of_mem.2]
      simp

/-- Before a blank it does not matter whether a word could start. -/
theorem occurrences_of_startsBlank {first second : Scan} (same : first.quote? = second.quote?)
    {text : Text} (starts : StartsBlank text) :
    occurrences word first text = occurrences word second text := by
  cases text with
  | nil => rfl
  | cons c rest =>
      have step_eq : first.step c = second.step c := by simp [Scan.step, same]
      rw [occurrences, occurrences, startsWithWord_blank_cons isWord (starts c rfl), step_eq]
      simp

theorem keywordPositions_of_isWord {other : Text} (other_isWord : IsWord other) :
    keywordPositions word other = if sameIgnoringCase other word then [0] else [] := by
  cases other with
  | nil => exact absurd rfl other_isWord.ne_nil
  | cons c rest =>
      obtain ⟨head_plain, rest_plain⟩ := List.forall_mem_cons.mp other_isWord.plain
      have unbroken : ∀ d ∈ c :: rest, isBlank d = false := fun d member =>
        (other_isWord.plain d member).1
      have token_eq : (c :: rest).takeWhile (!isBlank ·) = c :: rest :=
        List.takeWhile_eq_self_iff.mpr fun d member => by simp [unbroken d member]
      have later_eq : occurrences word (Scan.start.step c) rest = [] :=
        occurrences_of_not_afterBlank head_plain.1 fun d member => (rest_plain d member).1
      rw [keywordPositions, occurrences, later_eq]
      have starts_eq : startsWithWord word (c :: rest) = sameIgnoringCase (c :: rest) word := by
        rw [Bool.eq_iff_iff, startsWithWord_iff isWord, token_eq]
      simp [starts_eq, Scan.atWordStart, Scan.start]

theorem keywordPositions_append {left : Text} (settled : Settled left) (right : Text) :
    keywordPositions word (left ++ right) =
      keywordPositions word left ++ (keywordPositions word right).map (· + left.length) := by
  rw [keywordPositions, occurrences_append isWord _ (settled.setApart right), settled]
  rfl

theorem keywordPositions_append_of_closed {left right : Text} (closed : Closed left)
    (starts : StartsBlank right) :
    keywordPositions word (left ++ right) =
      keywordPositions word left ++ (keywordPositions word right).map (· + left.length) := by
  have outside : (Scan.start.run left).quote? = Scan.start.quote? := closed
  rw [keywordPositions, occurrences_append isWord _ (.inr starts),
    occurrences_of_startsBlank isWord outside starts]
  rfl

/-- After a text that leaves a quote open, a text without quotes holds no word. What follows it may be
scanned in the quote or not. -/
theorem keywordPositions_append_append_of_not_closed {left middle right : Text}
    (isOpen : ¬ Closed left) (apart : SetApart left (middle ++ right))
    (right_apart : SetApart middle right) (plain : ∀ c ∈ middle, isQuote c = false)
    (absent : ∀ scan, occurrences word scan right = []) :
    keywordPositions word (left ++ (middle ++ right)) = keywordPositions word left := by
  obtain ⟨quote, inside⟩ := Option.ne_none_iff_exists'.mp isOpen
  have quotes : isQuote quote = true :=
    Scan.isQuote_of_run (by simp [Scan.start]) left quote inside
  have unclosed : quote ∉ middle := by
    intro member
    rw [plain quote member] at quotes
    contradiction
  rw [keywordPositions, occurrences_append isWord _ apart, occurrences_append isWord _ right_apart,
    occurrences_of_open inside unclosed, absent, List.map_nil, List.append_nil, List.map_nil,
    List.append_nil, keywordPositions]

theorem keywordPositions_append_of_not_closed {left right : Text} (isOpen : ¬ Closed left)
    (apart : SetApart left right) (plain : ∀ c ∈ right, isQuote c = false) :
    keywordPositions word (left ++ right) = keywordPositions word left := by
  have whole := keywordPositions_append_append_of_not_closed isWord isOpen
    (by rwa [List.append_nil]) (.inr (.of_blank Text.Blank.nil)) plain fun _ => rfl
  rwa [List.append_nil] at whole

theorem keywordPositions_append_blank (text : Text) {blanks : Text} (blank : Blank blanks) :
    keywordPositions word (text ++ blanks) = keywordPositions word text := by
  rw [keywordPositions, occurrences_append isWord _ (.inr (.of_blank blank)),
    occurrences_of_blank isWord _ blank, List.map_nil, List.append_nil, keywordPositions]

theorem keywordPositions_blank_append {blanks : Text} (blank : Blank blanks) (text : Text) :
    keywordPositions word (blanks ++ text) =
      (keywordPositions word text).map (· + blanks.length) := by
  rw [keywordPositions_append isWord (settled_of_blank blank), keywordPositions,
    occurrences_of_blank isWord _ blank, List.nil_append]

theorem keywordPositions_trim {text : Text} (absent : keywordPositions word text = []) :
    keywordPositions word (Text.trim text) = [] := by
  obtain ⟨before, after, before_blank, after_blank, split⟩ := Text.exists_blanks_trim text
  rw [split, keywordPositions_append_blank isWord _ after_blank,
    keywordPositions_blank_append isWord before_blank, List.map_eq_nil_iff] at absent
  exact absent

/-- A text that starts with another word holds the word where the rest holds it, and in front if
both words are the same. -/
theorem keywordPositions_word_append {other : Text} (other_isWord : IsWord other) {rest : Text}
    (starts : StartsBlank rest) :
    keywordPositions word (other ++ rest) =
      (if sameIgnoringCase other word then [0] else []) ++
        (keywordPositions word rest).map (· + other.length) := by
  have closed : Closed other := closed_of_plain fun c member => (other_isWord.plain c member).2
  rw [keywordPositions_append_of_closed isWord closed starts,
    keywordPositions_of_isWord isWord other_isWord]

end Word

theorem startsWithWord_iff_exists {word text : Text} :
    startsWithWord word text = true ↔
      ∃ written rest, text = written ++ rest ∧ sameIgnoringCase written word = true ∧
        StartsBlank rest := by
  rw [startsWithWord, Bool.and_eq_true, Option.all_eq_true]
  constructor
  · rintro ⟨same, starts⟩
    exact ⟨_, _, (List.take_append_drop word.length text).symm, same, starts⟩
  · rintro ⟨written, rest, rfl, same, starts⟩
    rw [← Text.length_eq_of_same same, List.take_left, List.drop_left]
    exact ⟨same, starts⟩

/-- A word occurs where the text in front is settled, the word stands in some letter case, and a
blank or the end follows. -/
theorem mem_occurrences_iff {word : Text} (ne_nil : word ≠ []) {scan : Scan} {text : Text}
    {position : Nat} :
    position ∈ occurrences word scan text ↔
      ∃ front written rest, text = front ++ (written ++ rest) ∧ front.length = position ∧
        scan.run front = Scan.start ∧ sameIgnoringCase written word = true ∧ StartsBlank rest := by
  induction text generalizing scan position with
  | nil =>
      simp only [occurrences, List.not_mem_nil, false_iff]
      rintro ⟨front, written, rest, text_eq, -, -, same, -⟩
      simp only [List.nil_eq, List.append_eq_nil_iff] at text_eq
      have length_eq := Text.length_eq_of_same same
      rw [text_eq.2.1] at length_eq
      exact ne_nil (List.eq_nil_of_length_eq_zero length_eq.symm)
  | cons c tail induction =>
      cases position with
      | zero =>
          have first_iff : 0 ∈ occurrences word scan (c :: tail) ↔
              scan.atWordStart = true ∧ startsWithWord word (c :: tail) = true := by
            rw [occurrences, ← Bool.and_eq_true]
            split <;> simp_all
          rw [first_iff, Scan.atWordStart_iff, startsWithWord_iff_exists]
          constructor
          · rintro ⟨at_start, written, rest, text_eq, same, starts⟩
            exact ⟨[], written, rest, text_eq, rfl, at_start, same, starts⟩
          · rintro ⟨front, written, rest, text_eq, length_eq, at_start, same, starts⟩
            obtain rfl := List.eq_nil_of_length_eq_zero length_eq
            exact ⟨at_start, written, rest, text_eq, same, starts⟩
      | succ position =>
          have later_iff : position + 1 ∈ occurrences word scan (c :: tail) ↔
              position ∈ occurrences word (scan.step c) tail := by
            rw [occurrences]
            split <;> simp
          rw [later_iff, induction]
          constructor
          · rintro ⟨front, written, rest, rfl, rfl, at_start, same, starts⟩
            exact ⟨c :: front, written, rest, rfl, rfl, at_start, same, starts⟩
          · rintro ⟨front, written, rest, text_eq, length_eq, at_start, same, starts⟩
            obtain ⟨d, front, rfl⟩ := List.exists_cons_of_length_eq_add_one length_eq
            obtain ⟨rfl, rfl⟩ := List.cons.inj text_eq
            exact ⟨front, written, rest, rfl, by simpa using length_eq, at_start, same, starts⟩

theorem lt_length_of_mem_occurrences {word text : Text} (ne_nil : word ≠ []) {scan : Scan}
    {position : Nat} (member : position ∈ occurrences word scan text) : position < text.length := by
  obtain ⟨front, written, rest, rfl, rfl, -, same, -⟩ := (mem_occurrences_iff ne_nil).mp member
  have written_pos : 0 < written.length := by
    rw [Text.length_eq_of_same same]
    exact List.length_pos_iff.mpr ne_nil
  simp only [List.length_append]
  omega

theorem lt_length_of_mem_keywordPositions {word text : Text} (ne_nil : word ≠ []) {position : Nat}
    (member : position ∈ keywordPositions word text) : position < text.length :=
  lt_length_of_mem_occurrences ne_nil member

/-- What stands in front of the first occurrence of a word does not hold it, wherever the scan
stands. -/
theorem exists_of_occurrences_eq_cons {word : Text} (isWord : IsWord word) {scan : Scan}
    {text : Text} {first : Nat} {later : List Nat}
    (positions : occurrences word scan text = first :: later) :
    ∃ front written rest, text = front ++ (written ++ rest) ∧ front.length = first ∧
      scan.run front = Scan.start ∧ occurrences word scan front = [] ∧
      sameIgnoringCase written word = true ∧ StartsBlank rest := by
  have member : first ∈ occurrences word scan text := positions ▸ List.mem_cons_self
  obtain ⟨front, written, rest, rfl, rfl, restarts, same, starts⟩ :=
    (mem_occurrences_iff isWord.ne_nil).mp member
  have ends : ∀ c ∈ front.getLast?, isBlank c = true := by
    intro c last
    have after := Scan.afterBlank_run scan front
    rw [restarts, Option.mem_def.mp last] at after
    exact after.symm
  refine ⟨front, written, rest, rfl, rfl, restarts, ?_, same, starts⟩
  rw [occurrences_append isWord scan (.inl ends)] at positions
  cases inFront : occurrences word scan front with
  | nil => rfl
  | cons position positions_front =>
      rw [inFront, List.cons_append] at positions
      have before : position < front.length :=
        lt_length_of_mem_occurrences isWord.ne_nil (inFront ▸ List.mem_cons_self)
      have := (List.cons.inj positions).1
      omega

theorem exists_of_keywordPositions_eq_cons {word : Text} (isWord : IsWord word) {text : Text}
    {first : Nat} {later : List Nat} (positions : keywordPositions word text = first :: later) :
    ∃ front written rest, text = front ++ (written ++ rest) ∧ front.length = first ∧
      Settled front ∧ keywordPositions word front = [] ∧
      sameIgnoringCase written word = true ∧ StartsBlank rest :=
  exists_of_occurrences_eq_cons isWord positions

/-- Between two words that occur one after the other the text starts with a blank, and settles. -/
theorem exists_between {word other : Text} (isWord : IsWord word) (otherIsWord : IsWord other)
    {text : Text} {first second : Nat} (inFirst : first ∈ keywordPositions word text)
    (inSecond : second ∈ keywordPositions other text) (before : first < second) :
    ∃ front written middle back, text = front ++ (written ++ (middle ++ back)) ∧
      front.length = first ∧ front.length + written.length + middle.length = second ∧
      Settled front ∧ sameIgnoringCase written word = true ∧
      StartsBlank middle ∧ middle ≠ [] ∧ Settled middle := by
  obtain ⟨front, written, rest, rfl, rfl, settled, same, starts⟩ :=
    (mem_occurrences_iff isWord.ne_nil).mp inFirst
  rw [keywordPositions_append otherIsWord settled, keywordPositions_word_append otherIsWord
    (isWord.of_same same) starts] at inSecond
  rcases List.mem_append.mp inSecond with inFront | behind
  · have := lt_length_of_mem_keywordPositions otherIsWord.ne_nil inFront
    omega
  · obtain ⟨position, found, rfl⟩ := List.mem_map.mp behind
    rcases List.mem_append.mp found with here | later
    · have : position = 0 := by
        split at here
        · exact List.mem_singleton.mp here
        · exact absurd here List.not_mem_nil
      omega
    · obtain ⟨_, inRest, rfl⟩ := List.mem_map.mp later
      obtain ⟨middle, otherWritten, back, rfl, rfl, middleSettled, otherSame, -⟩ :=
        (mem_occurrences_iff otherIsWord.ne_nil).mp inRest
      obtain ⟨middleStarts, ne_nil⟩ := starts.of_word (otherIsWord.of_same otherSame)
      exact ⟨front, written, middle, otherWritten ++ back, rfl, rfl, by omega, settled, same,
        middleStarts, ne_nil, middleSettled⟩

theorem not_mem_of_different {word other text : Text} {position : Nat}
    (member : position ∈ keywordPositions word text) (isWord : IsWord word)
    (different : Text.asciiLower word ≠ Text.asciiLower other) (otherIsWord : IsWord other) :
    position ∉ keywordPositions other text := by
  intro otherMember
  obtain ⟨front, written, rest, rfl, rfl, -, same, starts⟩ :=
    (mem_occurrences_iff isWord.ne_nil).mp member
  obtain ⟨otherFront, otherWritten, otherRest, split, length_eq, -, otherSame, otherStarts⟩ :=
    (mem_occurrences_iff otherIsWord.ne_nil).mp otherMember
  obtain ⟨rfl, behind⟩ := List.append_inj split length_eq.symm
  have here : startsWithWord word (written ++ rest) = true :=
    startsWithWord_iff_exists.mpr ⟨written, rest, rfl, same, starts⟩
  have otherHere : startsWithWord other (written ++ rest) = true :=
    startsWithWord_iff_exists.mpr ⟨otherWritten, otherRest, behind, otherSame, otherStarts⟩
  rw [startsWithWord_iff isWord] at here
  rw [startsWithWord_iff otherIsWord, not_same_of_same here different] at otherHere
  contradiction

theorem add_length_le_length {word text : Text} {position : Nat} (isWord : IsWord word)
    (member : position ∈ keywordPositions word text) : position + word.length ≤ text.length := by
  obtain ⟨front, written, rest, rfl, rfl, -, same, -⟩ :=
    (mem_occurrences_iff isWord.ne_nil).mp member
  rw [List.length_append, List.length_append, Text.length_eq_of_same same]
  omega

theorem add_length_le_of_lt {word other text : Text} {first second : Nat} (isWord : IsWord word)
    (otherIsWord : IsWord other) (inFirst : first ∈ keywordPositions word text)
    (inSecond : second ∈ keywordPositions other text) (before : first < second) :
    first + word.length ≤ second := by
  obtain ⟨front, written, middle, back, -, rfl, rfl, -, same, -⟩ :=
    exists_between isWord otherIsWord inFirst inSecond before
  rw [Text.length_eq_of_same same]
  omega

end ProxyHistory.Query
