import Mathlib.Data.List.DropRight
import ProxyHistory.Text.Basic

/-!
# Blanks and trimming

Trimming takes off the blank characters at both ends of a text and nothing else, so a text is
blanks, its trimmed form, and blanks again. Blanks at the end of a text change none of its words, and
its lines are taken off its front one by one.
-/

namespace ProxyHistory.Text

/-- All characters of a text are blank. -/
def Blank (text : Text) : Prop :=
  ∀ c ∈ text, isBlank c = true

/-- A text has no blank at either end. -/
def Trimmed (text : Text) : Prop :=
  (∀ c ∈ text.head?, isBlank c = false) ∧ ∀ c ∈ text.getLast?, isBlank c = false

instance (text : Text) : Decidable (Blank text) :=
  inferInstanceAs (Decidable (∀ c ∈ text, isBlank c = true))

instance (text : Text) : Decidable (Trimmed text) :=
  inferInstanceAs (Decidable (_ ∧ _))

theorem Blank.nil : Blank [] := fun _ member => absurd member List.not_mem_nil

theorem blank_space : Blank [' '] := by decide

theorem Blank.append {left right : Text} (left_blank : Blank left) (right_blank : Blank right) :
    Blank (left ++ right) := by
  intro c member
  rcases List.mem_append.mp member with member | member
  · exact left_blank c member
  · exact right_blank c member

theorem Blank.reverse {text : Text} (blank : Blank text) : Blank text.reverse := fun c member =>
  blank c (List.mem_reverse.mp member)

theorem Blank.of_mem {c : Char} {text : Text} (blank : Blank (c :: text)) :
    isBlank c = true ∧ Blank text :=
  List.forall_mem_cons.mp blank

theorem trimStart_append_blank {blanks : Text} (blank : Blank blanks) (text : Text) :
    trimStart (blanks ++ text) = trimStart text :=
  List.dropWhile_append_of_pos blank

theorem trimEnd_append_blank {blanks : Text} (blank : Blank blanks) (text : Text) :
    trimEnd (text ++ blanks) = trimEnd text := by
  rw [trimEnd, List.reverse_append, List.dropWhile_append_of_pos blank.reverse, trimEnd]

theorem trimStart_of_blank {blanks : Text} (blank : Blank blanks) : trimStart blanks = [] := by
  simpa [trimStart] using trimStart_append_blank blank []

theorem trimStart_append_of_ne_nil {text : Text} (left : trimStart text ≠ []) (rest : Text) :
    trimStart (text ++ rest) = trimStart text ++ rest := by
  rw [trimStart, List.dropWhile_append, if_neg (by simpa [trimStart] using left), trimStart]

/-- Every text is its trimmed form between blanks. -/
theorem exists_blanks_trim (text : Text) :
    ∃ before after, Blank before ∧ Blank after ∧ text = before ++ trim text ++ after := by
  refine ⟨text.takeWhile isBlank, (trimStart text).rtakeWhile isBlank, ?_, ?_, ?_⟩
  · exact fun c member => List.mem_takeWhile_imp member
  · exact fun c member => List.mem_rtakeWhile_imp member
  · have end_eq : trim text ++ (trimStart text).rtakeWhile isBlank = trimStart text :=
      List.rdropWhile_append_rtakeWhile
    rw [List.append_assoc, end_eq]
    exact List.takeWhile_append_dropWhile.symm

theorem exists_blank_trimStart (text : Text) :
    ∃ after, Blank after ∧ trimStart text = trim text ++ after :=
  ⟨(trimStart text).rtakeWhile isBlank, fun _ member => List.mem_rtakeWhile_imp member,
    List.rdropWhile_append_rtakeWhile.symm⟩

/-- Only blanks in front are trimmed off the end of a text that ends with no blank. -/
theorem exists_blanks_of_suffix {text back : Text} (ends : ∀ c ∈ text.getLast?, isBlank c = false)
    (suffix : back <:+ text) : ∃ before, Blank before ∧ back = before ++ trim back := by
  obtain ⟨before, after, before_blank, after_blank, split⟩ := exists_blanks_trim back
  have after_nil : after = [] := by
    by_contra nonempty
    obtain ⟨front, rfl⟩ := suffix
    have last : (front ++ back).getLast? = some (after.getLast nonempty) := by
      rw [split, ← List.append_assoc, List.getLast?_append_of_ne_nil _ nonempty,
        List.getLast?_eq_some_getLast nonempty]
    have notBlank := ends _ last
    rw [after_blank _ (List.getLast_mem nonempty)] at notBlank
    contradiction
  rw [after_nil, List.append_nil] at split
  exact ⟨before, before_blank, split⟩

theorem trim_blank_append_blank {before after : Text} (before_blank : Blank before)
    (after_blank : Blank after) (text : Text) : trim (before ++ text ++ after) = trim text := by
  have start_eq : trimStart (before ++ text ++ after) = trimStart (text ++ after) := by
    rw [List.append_assoc, trimStart_append_blank before_blank]
  by_cases empty : trimStart text = []
  · have text_blank : Blank text := by simpa [trimStart, Blank] using empty
    rw [trim, start_eq, trimStart_of_blank (text_blank.append after_blank), trim, empty]
  · rw [trim, start_eq, trimStart_append_of_ne_nil empty, trimEnd_append_blank after_blank, trim]

theorem trim_of_trimmed {text : Text} (trimmed : Trimmed text) : trim text = text := by
  have start_eq : trimStart text = text := by
    cases text with
    | nil => rfl
    | cons c rest => simp [trimStart, trimmed.1 c rfl]
  rw [trim, start_eq, trimEnd]
  cases reversed : text.reverse with
  | nil => simpa using reversed
  | cons c rest =>
      have last : text.getLast? = some c := by
        rw [← List.head?_reverse, reversed, List.head?_cons]
      rw [List.dropWhile_cons_of_neg (by simp [trimmed.2 c last]), ← reversed,
        List.reverse_reverse]

theorem trim_around {before text after : Text} (beforeBlank : Blank before)
    (afterBlank : Blank after) (trimmed : Trimmed text) :
    trim (before ++ text ++ after) = text := by
  rw [trim_blank_append_blank beforeBlank afterBlank, trim_of_trimmed trimmed]

theorem trim_behind {before text : Text} (blank : Blank before) (trimmed : Trimmed text) :
    trim (before ++ text) = text := by
  have around := trim_around blank Blank.nil trimmed
  rwa [List.append_nil] at around

@[simp]
theorem trim_trim (text : Text) : trim (trim text) = trim text := by
  obtain ⟨before, after, before_blank, after_blank, split⟩ := exists_blanks_trim text
  conv_rhs => rw [split, trim_blank_append_blank before_blank after_blank]

theorem getLast?_trim (text : Text) : ∀ c ∈ (trim text).getLast?, isBlank c = false := by
  intro c last
  rw [trim, trimEnd, List.getLast?_reverse] at last
  have first := List.head?_dropWhile_not isBlank (trimStart text).reverse
  rw [last] at first
  exact first

theorem trimmed_trim (text : Text) : Trimmed (trim text) := by
  refine ⟨fun c head => ?_, getLast?_trim text⟩
  obtain ⟨after, -, split⟩ := exists_blank_trimStart text
  obtain ⟨rest, trimmed⟩ := List.head?_eq_some_iff.mp head
  have first := List.head?_dropWhile_not isBlank text
  rw [← trimStart, split, trimmed] at first
  exact first

theorem trimStart_append_append {middle : Text} (starts : ∀ c ∈ middle.head?, isBlank c = false)
    (ne_nil : middle ≠ []) (left right : Text) :
    trimStart (left ++ (middle ++ right)) = trimStart left ++ (middle ++ right) := by
  obtain ⟨first, others, rfl⟩ := List.exists_cons_of_ne_nil ne_nil
  have stays : trimStart (first :: others ++ right) = first :: others ++ right :=
    List.dropWhile_cons_of_neg (by simp [starts first rfl])
  by_cases empty : trimStart left = []
  · have blank : Blank left := by simpa [trimStart, Blank] using empty
    rw [trimStart_append_blank blank, stays, empty, List.nil_append]
  · rw [trimStart_append_of_ne_nil empty]

theorem trimEnd_append_append {middle : Text} (ends : ∀ c ∈ middle.getLast?, isBlank c = false)
    (ne_nil : middle ≠ []) (left right : Text) :
    trimEnd (left ++ (middle ++ right)) = left ++ (middle ++ trimEnd right) := by
  have starts : ∀ c ∈ middle.reverse.head?, isBlank c = false := by
    intro c head
    rw [List.head?_reverse] at head
    exact ends c head
  have reversed := trimStart_append_append starts (by simpa using ne_nil) right.reverse left.reverse
  rw [trimStart, trimStart] at reversed
  rw [trimEnd, trimEnd, List.reverse_append, List.reverse_append, List.append_assoc, reversed]
  simp

/-- Trimming does not touch what stands around a trimmed text on its other side. -/
theorem trim_append_append {middle : Text} (trimmed : Trimmed middle) (ne_nil : middle ≠ [])
    (left right : Text) :
    trim (left ++ (middle ++ right)) = trimStart left ++ (middle ++ trimEnd right) := by
  rw [trim, trimStart_append_append trimmed.1 ne_nil, trimEnd_append_append trimmed.2 ne_nil]

theorem Trimmed.append_append {front back : Text} (frontTrimmed : Trimmed front)
    (backTrimmed : Trimmed back) (front_ne_nil : front ≠ []) (back_ne_nil : back ≠ [])
    (middle : Text) : Trimmed (front ++ (middle ++ back)) := by
  constructor
  · obtain ⟨first, rest, rfl⟩ := List.exists_cons_of_ne_nil front_ne_nil
    exact frontTrimmed.1
  · intro c last
    rw [← List.append_assoc, List.getLast?_append, List.getLast?_eq_some_getLast back_ne_nil,
      Option.some_or, ← List.getLast?_eq_some_getLast back_ne_nil] at last
    exact backTrimmed.2 c last

/-! ## Words and lines -/

theorem words_append_cons (text : Text) {c : Char} (blank : isBlank c) (rest : Text) :
    words (text ++ c :: rest) = words text ++ words rest := by
  rw [words, List.splitOnP_append_cons text rest blank, List.filter_append]
  rfl

theorem words_of_blank {blanks : Text} (blank : Blank blanks) : words blanks = [] := by
  induction blanks with
  | nil => rfl
  | cons c rest induction =>
      obtain ⟨first, others⟩ := blank.of_mem
      exact (words_append_cons [] first rest).trans (induction others)

theorem words_append_blank (text : Text) {blanks : Text} (blank : Blank blanks) :
    words (text ++ blanks) = words text := by
  cases blanks with
  | nil => rw [List.append_nil]
  | cons c rest =>
      obtain ⟨first, others⟩ := blank.of_mem
      rw [words_append_cons text first, words_of_blank others, List.append_nil]

theorem words_of_unbroken {word : Text} (ne_nil : word ≠ [])
    (unbroken : ∀ c ∈ word, isBlank c = false) : words word = [word] := by
  rw [words, List.splitOnP_eq_singleton unbroken]
  simp [ne_nil]

theorem words_append_space_cons {word : Text} (ne_nil : word ≠ [])
    (unbroken : ∀ c ∈ word, isBlank c = false) (rest : Text) :
    words (word ++ ' ' :: rest) = word :: words rest := by
  rw [words_append_cons word (by decide), words_of_unbroken ne_nil unbroken,
    List.singleton_append]

theorem exists_blank_dropReturn (line : Text) :
    ∃ blanks, Blank blanks ∧ line = dropReturn line ++ blanks := by
  rw [dropReturn]
  split
  · rename_i last
    obtain ⟨front, rfl⟩ := List.getLast?_eq_some_iff.mp last
    exact ⟨['\r'], by decide, by rw [List.dropLast_concat]⟩
  · exact ⟨[], Blank.nil, (List.append_nil line).symm⟩

theorem dropReturn_concat (line : Text) : dropReturn (line ++ ['\r']) = line := by
  rw [dropReturn, List.getLast?_concat, if_pos rfl, List.dropLast_concat]

theorem lines_of_oneLine {line : Text} (oneLine : '\n' ∉ line) (ne_nil : line ≠ []) :
    lines line = [line] := by
  obtain ⟨c, rest, rfl⟩ := List.exists_cons_of_ne_nil ne_nil
  rw [lines, List.splitOn_eq_singleton oneLine]
  rfl

theorem lines_append_cons {line : Text} (oneLine : '\n' ∉ line) (rest : Text) :
    lines (line ++ '\n' :: rest) = dropReturn line :: lines rest := by
  have later := List.splitOn_ne_nil '\n' rest
  rw [lines, List.splitOn_append_cons_self_of_not_mem oneLine, List.dropLast_cons_of_ne_nil later,
    List.getLast?_cons_of_ne_nil later]
  rfl

/-- Lines are read back if they are put together with an ending that ends each of them. -/
theorem lines_intercalate {ending : Text} {lines : List Text}
    (areLines : ∀ line ∈ lines, '\n' ∉ line ∧ line ≠ [])
    (ends : ∀ line ∈ lines, ∀ rest, Text.lines (line ++ ending ++ rest) = line :: Text.lines rest) :
    Text.lines (List.intercalate ending lines) = lines := by
  induction lines with
  | nil => rfl
  | cons line lines induction =>
      obtain ⟨isLine, othersAreLines⟩ := List.forall_mem_cons.mp areLines
      obtain ⟨lineEnds, othersEnd⟩ := List.forall_mem_cons.mp ends
      cases lines with
      | nil =>
          rw [List.intercalate_singleton]
          exact lines_of_oneLine isLine.1 isLine.2
      | cons next lines =>
          rw [List.intercalate_cons_cons, lineEnds, induction othersAreLines othersEnd]

/-- Every text is built up from its end: it is a single line, or a line in front of a text. -/
@[elab_as_elim]
theorem line_induction {motive : Text → Prop} (single : ∀ line, '\n' ∉ line → motive line)
    (more : ∀ line rest, '\n' ∉ line → motive rest → motive (line ++ '\n' :: rest))
    (text : Text) : motive text := by
  induction length : text.length using Nat.strong_induction_on generalizing text with
  | _ bound induction =>
      subst length
      by_cases several : '\n' ∈ text
      · obtain ⟨line, rest, rfl, oneLine⟩ := List.eq_append_cons_of_mem several
        have shorter : rest.length < (line ++ '\n' :: rest).length := by
          simp only [List.length_append, List.length_cons]
          omega
        exact more line rest oneLine (induction rest.length shorter rest rfl)
      · exact single text several

end ProxyHistory.Text
