import ProxyHistory.Proofs.Text.Blank
import ProxyHistory.Proofs.Text.Letters

/-!
# Scanning for keywords

The occurrences of a word are found piece by piece: the scan carries everything that a piece needs
to know about the text before it, provided that no word runs over the seam. After a settled text the
scan stands as at the start, so such a text only moves the occurrences behind it.
-/

namespace ProxyHistory.Query

open Text (isBlank Blank sameIgnoringCase)

/-- A word that can stand as a keyword: it is not empty, and its characters neither part words nor
quote. -/
structure IsWord (word : Text) : Prop where
  ne_nil : word ≠ []
  plain : ∀ c ∈ word, isBlank c = false ∧ isQuote c = false

instance (word : Text) : Decidable (IsWord word) :=
  decidable_of_iff (word ≠ [] ∧ ∀ c ∈ word, isBlank c = false ∧ isQuote c = false)
    ⟨fun ⟨ne_nil, plain⟩ => ⟨ne_nil, plain⟩, fun ⟨ne_nil, plain⟩ => ⟨ne_nil, plain⟩⟩

/-- A text is empty or starts with a blank, so that a word before it ends there. -/
def StartsBlank (text : Text) : Prop :=
  ∀ c ∈ text.head?, isBlank c = true

/-- No word runs over the seam between two texts. -/
def SetApart (left right : Text) : Prop :=
  (∀ c ∈ left.getLast?, isBlank c = true) ∨ StartsBlank right

/-- A text leaves no quote open. -/
def Closed (text : Text) : Prop :=
  (Scan.start.run text).quote? = none

/-- After a text the scan stands as at the start. -/
def Settled (text : Text) : Prop :=
  Scan.start.run text = Scan.start

instance (text : Text) : Decidable (StartsBlank text) :=
  inferInstanceAs (Decidable (∀ c ∈ text.head?, isBlank c = true))

instance (text : Text) : Decidable (Closed text) :=
  inferInstanceAs (Decidable (_ = none))

theorem IsWord.of_same {written word : Text} (isWord : IsWord word)
    (same : sameIgnoringCase written word = true) : IsWord written where
  ne_nil := by
    rintro rfl
    exact isWord.ne_nil (List.eq_nil_of_length_eq_zero (Text.length_eq_of_same same).symm)
  plain := by
    refine Text.forall_mem_of_same (fun c => ?_) same isWord.plain
    rw [Text.isBlank_toLower, Text.isQuote_toLower]

/-- A written keyword is not written in another way that also spells a different keyword. -/
theorem not_same_of_same {written word other : Text}
    (same : sameIgnoringCase written word = true)
    (different : Text.asciiLower word ≠ Text.asciiLower other) :
    sameIgnoringCase written other = false := by
  rw [Bool.eq_false_iff, ne_eq, Text.sameIgnoringCase_iff, Text.sameIgnoringCase_iff.mp same]
  exact different

theorem trimmed_of_isWord {word : Text} (isWord : IsWord word) : Text.Trimmed word :=
  ⟨fun c head => (isWord.plain c (List.mem_of_mem_head? head)).1,
    fun c last => (isWord.plain c (List.mem_of_getLast? last)).1⟩

theorem eq_or_eq_of_isQuote {c : Char} (quote : isQuote c) : c = '\'' ∨ c = '"' := by
  simpa [isQuote] using quote

theorem not_isQuote_of_isBlank {c : Char} (blank : isBlank c = true) : isQuote c = false := by
  rw [Bool.eq_false_iff]
  intro quote
  rcases eq_or_eq_of_isQuote quote with rfl | rfl <;> exact absurd blank (by decide)

theorem not_isBlank_of_isQuote {c : Char} (isQuote : isQuote c) : isBlank c = false := by
  rw [Bool.eq_false_iff]
  intro blank
  rw [not_isQuote_of_isBlank blank] at isQuote
  contradiction

theorem StartsBlank.of_blank {text : Text} (blank : Blank text) : StartsBlank text := fun c head =>
  blank c (List.mem_of_mem_head? head)

theorem StartsBlank.append {left right : Text} (left_starts : StartsBlank left)
    (right_starts : StartsBlank right) : StartsBlank (left ++ right) := by
  cases left with
  | nil => exact right_starts
  | cons c rest => exact left_starts

theorem StartsBlank.append_of_ne_nil {left : Text} (starts : StartsBlank left) (ne_nil : left ≠ [])
    (right : Text) : StartsBlank (left ++ right) := by
  obtain ⟨c, rest, rfl⟩ := List.exists_cons_of_ne_nil ne_nil
  exact starts

theorem StartsBlank.of_word {front word rest : Text} (starts : StartsBlank (front ++ (word ++ rest)))
    (isWord : IsWord word) : StartsBlank front ∧ front ≠ [] := by
  cases front with
  | nil =>
      obtain ⟨c, others, rfl⟩ := List.exists_cons_of_ne_nil isWord.ne_nil
      have notBlank := (isWord.plain c List.mem_cons_self).1
      rw [starts c rfl] at notBlank
      contradiction
  | cons c others => exact ⟨starts, List.cons_ne_nil c others⟩

theorem startsBlank_space (rest : Text) : StartsBlank (' ' :: rest) :=
  (StartsBlank.of_blank Text.blank_space).append_of_ne_nil (List.cons_ne_nil _ _) rest

theorem SetApart.tail {c : Char} {rest right : Text} (apart : SetApart (c :: rest) right) :
    SetApart rest right := by
  refine apart.imp_left fun ends last last_eq => ends last ?_
  rw [List.getLast?_cons, Option.mem_def.mp last_eq]
  rfl

/-! ## The scan over a text -/

namespace Scan

@[simp] theorem run_nil (scan : Scan) : scan.run [] = scan := rfl

@[simp] theorem run_cons (scan : Scan) (c : Char) (rest : Text) :
    scan.run (c :: rest) = (scan.step c).run rest := rfl

@[simp] theorem run_append (scan : Scan) (left right : Text) :
    scan.run (left ++ right) = (scan.run left).run right :=
  List.foldl_append

theorem atWordStart_iff {scan : Scan} : scan.atWordStart = true ↔ scan = start := by
  obtain ⟨quote?, afterBlank⟩ := scan
  simp [atWordStart, start]

/-- Whether a quote is open after a text depends only on whether one was open before. -/
theorem quote?_run_congr {first second : Scan} (same : first.quote? = second.quote?) (text : Text) :
    (first.run text).quote? = (second.run text).quote? := by
  induction text generalizing first second with
  | nil => exact same
  | cons c rest induction => exact induction (by simp [step, same])

theorem afterBlank_run (scan : Scan) (text : Text) :
    (scan.run text).afterBlank = (text.getLast?.map isBlank).getD scan.afterBlank := by
  induction text generalizing scan with
  | nil => rfl
  | cons c rest induction =>
      rw [run_cons, induction, List.getLast?_cons]
      cases rest.getLast? <;> rfl

theorem quote?_run_of_plain {scan : Scan} (outside : scan.quote? = none) {text : Text}
    (plain : ∀ c ∈ text, isQuote c = false) : (scan.run text).quote? = none := by
  induction text generalizing scan with
  | nil => exact outside
  | cons c rest induction =>
      obtain ⟨head_plain, rest_plain⟩ := List.forall_mem_cons.mp plain
      exact induction (by simp [step, outside, head_plain]) rest_plain

theorem quote?_run_of_open {scan : Scan} {quote : Char} (inside : scan.quote? = some quote)
    {text : Text} (unclosed : quote ∉ text) : (scan.run text).quote? = some quote := by
  induction text generalizing scan with
  | nil => exact inside
  | cons c rest induction =>
      rw [List.mem_cons, not_or] at unclosed
      exact induction (by simp [step, inside, Ne.symm unclosed.1]) unclosed.2

theorem isQuote_of_run {scan : Scan} (quotes : ∀ quote ∈ scan.quote?, isQuote quote = true)
    (text : Text) : ∀ quote ∈ (scan.run text).quote?, isQuote quote = true := by
  induction text generalizing scan with
  | nil => exact quotes
  | cons c rest induction =>
      refine induction fun quote after => ?_
      simp only [step] at after
      split at after
      · rename_i open_quote before
        split at after
        · exact absurd after (by simp)
        · exact quotes quote (before ▸ after)
      · split at after
        · rename_i is_quote
          rw [Option.mem_some_iff] at after
          exact after ▸ is_quote
        · exact absurd after (by simp)

end Scan

theorem Settled.append {left right : Text} (left_settled : Settled left)
    (right_settled : Settled right) : Settled (left ++ right) := by
  rw [Settled, Scan.run_append, left_settled, right_settled]

theorem Settled.closed {text : Text} (settled : Settled text) : Closed text := by
  rw [Closed, settled]
  rfl

theorem settled_iff {text : Text} :
    Settled text ↔ Closed text ∧ ∀ c ∈ text.getLast?, isBlank c = true := by
  constructor
  · intro settled
    refine ⟨settled.closed, fun c last => ?_⟩
    have after : (Scan.start.run text).afterBlank = true := by rw [settled]; rfl
    rw [Scan.afterBlank_run, Option.mem_def.mp last] at after
    exact after
  · rintro ⟨closed, ends⟩
    have after : (Scan.start.run text).afterBlank = true := by
      rw [Scan.afterBlank_run]
      cases last : text.getLast? with
      | none => rfl
      | some c => exact ends c last
    apply Scan.atWordStart_iff.mp
    rw [Scan.atWordStart, closed, after]
    rfl

theorem Settled.setApart {left : Text} (settled : Settled left) (right : Text) :
    SetApart left right :=
  .inl (settled_iff.mp settled).2

theorem Closed.settled_append {text blanks : Text} (closed : Closed text) (blank : Blank blanks)
    (ne_nil : blanks ≠ []) : Settled (text ++ blanks) := by
  refine settled_iff.mpr ⟨?_, fun c last => ?_⟩
  · rw [Closed, Scan.run_append]
    exact Scan.quote?_run_of_plain closed fun c member => not_isQuote_of_isBlank (blank c member)
  · rw [List.getLast?_append, List.getLast?_eq_some_getLast ne_nil, Option.some_or] at last
    obtain rfl := Option.mem_some_iff.mp last
    exact blank _ (List.getLast_mem ne_nil)

theorem settled_of_blank {blanks : Text} (blank : Blank blanks) : Settled blanks := by
  by_cases empty : blanks = []
  · subst empty
    rfl
  · exact (show Closed [] from rfl).settled_append blank empty

theorem closed_of_plain {text : Text} (plain : ∀ c ∈ text, isQuote c = false) : Closed text :=
  Scan.quote?_run_of_plain rfl plain

theorem closed_plain_append {front : Text} (plain : ∀ c ∈ front, isQuote c = false) (text : Text) :
    Closed (front ++ text) ↔ Closed text := by
  have outside : (Scan.start.run front).quote? = Scan.start.quote? := closed_of_plain plain
  rw [Closed, Scan.run_append, Scan.quote?_run_congr outside, Closed]

/-- A word opens no quote. -/
theorem Settled.closed_append {text word : Text} (settled : Settled text) (isWord : IsWord word) :
    Closed (text ++ word) := by
  rw [Closed, Scan.run_append, settled]
  exact closed_of_plain fun c member => (isWord.plain c member).2

theorem Settled.word_append {word : Text} (isWord : IsWord word) {text : Text}
    (settled : Settled text) (ne_nil : text ≠ []) : Settled (word ++ text) := by
  obtain ⟨closed, ends⟩ := settled_iff.mp settled
  refine settled_iff.mpr ⟨(closed_plain_append (fun c member => (isWord.plain c member).2) _).mpr
    closed, ?_⟩
  rw [List.getLast?_append, List.getLast?_eq_some_getLast ne_nil, Option.some_or,
    ← List.getLast?_eq_some_getLast ne_nil]
  exact ends

theorem closed_append_plain {back : Text} (plain : ∀ c ∈ back, isQuote c = false) (text : Text) :
    Closed (text ++ back) ↔ Closed text := by
  rw [Closed, Scan.run_append, Closed]
  cases before : (Scan.start.run text).quote? with
  | none => simpa using Scan.quote?_run_of_plain before plain
  | some quote =>
      have is_quote : isQuote quote = true :=
        @Scan.isQuote_of_run .start (by simp [Scan.start]) text quote before
      have unclosed : quote ∉ back := fun member => by simp [plain quote member] at is_quote
      simp [Scan.quote?_run_of_open before unclosed]

theorem plain_of_blank {blanks : Text} (blank : Blank blanks) : ∀ c ∈ blanks, isQuote c = false :=
  fun c member => not_isQuote_of_isBlank (blank c member)

theorem closed_trim (text : Text) : Closed (Text.trim text) ↔ Closed text := by
  obtain ⟨before, after, before_blank, after_blank, split⟩ := Text.exists_blanks_trim text
  conv_rhs => rw [split]
  rw [closed_append_plain (plain_of_blank after_blank),
    closed_plain_append (plain_of_blank before_blank)]

/-! ## Words in a text -/

section Words

variable {word : Text} (isWord : IsWord word)

include isWord

theorem startsWithWord_iff {text : Text} :
    startsWithWord word text = true ↔
      sameIgnoringCase (text.takeWhile (!isBlank ·)) word = true := by
  have split_eq : text.takeWhile (!isBlank ·) ++ text.dropWhile (!isBlank ·) = text :=
    List.takeWhile_append_dropWhile
  constructor
  · intro starts
    obtain ⟨same, after⟩ := Bool.and_eq_true_iff.mp starts
    have plain := (isWord.of_same same).plain
    have taken : text.takeWhile (!isBlank ·) = text.take word.length := by
      conv_lhs => rw [← List.take_append_drop word.length text]
      rw [List.takeWhile_append_of_pos fun c member => by simp [(plain c member).1]]
      cases rest : text.drop word.length with
      | nil => simp
      | cons c rest =>
          rw [rest] at after
          simp_all
    rwa [taken]
  · intro same
    have length_eq := Text.length_eq_of_same same
    have taken : text.take word.length = text.takeWhile (!isBlank ·) := by
      rw [← length_eq]
      exact (List.prefix_iff_eq_take.mp (List.takeWhile_prefix _)).symm
    have dropped : text.drop word.length = text.dropWhile (!isBlank ·) := by
      apply @List.append_cancel_left _ (text.takeWhile (!isBlank ·)) _ _
      rw [split_eq, ← taken, List.take_append_drop]
    rw [startsWithWord, taken, dropped, same, Bool.true_and, Option.all_eq_true]
    intro c head
    have := List.head?_dropWhile_not (!isBlank ·) text
    rw [Option.mem_def.mp head] at this
    simpa using this

/-- What stands behind a seam does not matter for a word in front of it. -/
theorem startsWithWord_append {left right : Text} (apart : SetApart left right)
    (ne_nil : left ≠ []) : startsWithWord word (left ++ right) = startsWithWord word left := by
  have token_eq : (left ++ right).takeWhile (!isBlank ·) = left.takeWhile (!isBlank ·) := by
    rw [List.takeWhile_append]
    split
    · rename_i whole
      have left_plain : ∀ c ∈ left, isBlank c = false := by
        have prefix_eq := (List.takeWhile_prefix (!isBlank ·)).eq_of_length whole
        intro c member
        rw [← prefix_eq] at member
        simpa using List.mem_takeWhile_imp member
      rcases apart with ends | starts
      · have last_eq := List.getLast?_eq_some_getLast ne_nil
        have blank := ends _ last_eq
        rw [left_plain _ (List.getLast_mem ne_nil)] at blank
        contradiction
      · rw [(List.takeWhile_prefix (!isBlank ·)).eq_of_length whole]
        cases right with
        | nil => simp
        | cons c rest => simp [starts c rfl]
    · rfl
  rw [Bool.eq_iff_iff, startsWithWord_iff isWord, startsWithWord_iff isWord, token_eq]

theorem startsWithWord_blank_cons {c : Char} (blank : isBlank c = true) (rest : Text) :
    startsWithWord word (c :: rest) = false := by
  rw [Bool.eq_false_iff, ne_eq, startsWithWord_iff isWord]
  intro same
  apply (isWord.of_same same).ne_nil
  rw [List.takeWhile_cons_of_neg (by simp [blank])]

theorem startsWithWord_quote_cons {c : Char} (quote : isQuote c = true) (rest : Text) :
    startsWithWord word (c :: rest) = false := by
  rw [Bool.eq_false_iff, ne_eq, startsWithWord_iff isWord]
  intro same
  have not_blank : isBlank c = false := by
    by_contra blank
    rw [not_isQuote_of_isBlank (by simpa using blank)] at quote
    contradiction
  rw [List.takeWhile_cons_of_pos (by simp [not_blank])] at same
  have := ((isWord.of_same same).plain c List.mem_cons_self).2
  rw [quote] at this
  contradiction

end Words

end ProxyHistory.Query
