import Mathlib.Algebra.Group.Nat.Defs
import ProxyHistory.Proofs.Query.Occurrences
import ProxyHistory.Query.Basic

/-!
# Lists of fields and limits

What is written between commas is read back, whatever blanks stand around the list, and so is the
number of a limit.
-/

namespace ProxyHistory

open Text (isBlank Blank Trimmed)

namespace Text

theorem isDigit_of_mem_ofNat {number : Nat} {c : Char} (member : c ∈ ofNat number) :
    c.isDigit = true :=
  Nat.isDigit_of_mem_toDigits (by decide) (by decide) member

theorem ofNat_ne_nil (number : Nat) : ofNat number ≠ [] := Nat.toDigits_ne_nil

theorem not_isBlank_of_isDigit {c : Char} (digit : c.isDigit = true) : isBlank c = false := by
  rw [Char.isDigit_iff_toNat, show '0'.toNat = 48 from rfl, show '9'.toNat = 57 from rfl] at digit
  rw [Bool.eq_false_iff]
  simp only [isBlank, ne_eq, Bool.or_eq_true, Bool.and_eq_true, decide_eq_true_eq, beq_iff_eq]
  omega

theorem isDecimalDigit_of_isDigit {c : Char} (digit : c.isDigit = true) :
    isDecimalDigit c = true := by
  have ascii : c.toNat < 0x80 := by
    rw [Char.isDigit_iff_toNat, show '9'.toNat = 57 from rfl] at digit
    omega
  rw [isDecimalDigit, if_pos ascii, digit]

theorem isWord_ofNat (number : Nat) : Query.IsWord (ofNat number) where
  ne_nil := ofNat_ne_nil number
  plain := by
    intro c member
    have digit := isDigit_of_mem_ofNat member
    refine ⟨not_isBlank_of_isDigit digit, ?_⟩
    rw [Bool.eq_false_iff]
    intro quote
    rcases Query.eq_or_eq_of_isQuote quote with rfl | rfl <;> exact absurd digit (by decide)

@[simp]
theorem digits?_ofNat (number : Nat) : digits? (ofNat number) = some number := by
  have all_digits : (ofNat number).all Char.isDigit = true :=
    List.all_eq_true.mpr fun c member => isDigit_of_mem_ofNat member
  have value_eq : Nat.ofDigitChars 10 (ofNat number) 0 = number := Nat.ofDigitChars_ten_toDigits
  rw [Nat.ofDigitChars_eq_foldl] at value_eq
  rw [digits?, all_digits, value_eq]
  simp [ofNat_ne_nil]

theorem isDigit_of_digits? {text : Text} {number : Nat} (read : digits? text = some number) :
    text ≠ [] ∧ ∀ c ∈ text, c.isDigit = true := by
  rw [digits?] at read
  split at read
  · cases read
  · rename_i isRun
    simpa using isRun

theorem ne_sign_cons_of_digits? {text : Text} {number : Nat} (read : digits? text = some number)
    (sign : Char) (noDigit : sign.isDigit = false) (rest : Text) : text ≠ sign :: rest := by
  rintro rfl
  have digit := (isDigit_of_digits? read).2 sign List.mem_cons_self
  rw [noDigit] at digit
  contradiction

theorem natural?_of_digits? {text : Text} {number : Nat} (read : digits? text = some number)
    (bound : Nat) : natural? bound text = if number < bound then some number else none := by
  simp only [natural?]
  split
  · rename_i rest
    exact absurd rfl (ne_sign_cons_of_digits? read '+' (by decide) rest)
  · rw [read, Option.filter_some]
    simp only [decide_eq_true_eq]

/-- Digits are read as the integer that they stand for, if it is below the bound. -/
theorem integer?_of_digits? {text : Text} {number : Nat} (read : digits? text = some number)
    (bound : Nat) :
    integer? bound text = if number < bound then some (number : Int) else none := by
  unfold integer?
  split
  · rename_i rest
    exact absurd rfl (ne_sign_cons_of_digits? read '-' (by decide) rest)
  · rw [natural?_of_digits? read]
    split
    · rfl
    · rfl

theorem natural?_ofNat {bound number : Nat} (below : number < bound) :
    natural? bound (ofNat number) = some number := by
  rw [natural?_of_digits? (digits?_ofNat number), if_pos below]

/-- What holds a character that is no digit and no sign is no integer. -/
theorem integer?_of_mem {text : Text} {c : Char} (member : c ∈ text) (noDigit : c.isDigit = false)
    (noSign : c ≠ '+' ∧ c ≠ '-') (bound : Nat) : integer? bound text = none := by
  have undigited {text : Text} (member : c ∈ text) : digits? text = none := by
    have unread : text.all Char.isDigit = false :=
      List.all_eq_false.mpr ⟨c, member, by simp [noDigit]⟩
    rw [digits?, unread]
    simp
  unfold integer?
  split
  · rename_i rest
    rw [undigited ((List.mem_cons.mp member).resolve_left noSign.2)]
    rfl
  · have unread : natural? bound text = none := by
      unfold natural?
      dsimp only
      split
      · rename_i rest
        rw [undigited ((List.mem_cons.mp member).resolve_left noSign.1)]
        rfl
      · rw [undigited member]
        rfl
    rw [unread]
    rfl

end Text

namespace Query

/-- The number that digits stand for is the limit if it is an integer of 64 bits; otherwise the limit
is a single row. -/
theorem readLimit_of_digits? {literal : Text} {number : Nat}
    (read : Text.digits? literal = some number) :
    readLimit literal = if number < 2 ^ 63 then number else 1 := by
  have read : Text.integer? (Nat.pow 2 63) literal =
      if number < 2 ^ 63 then some (number : Int) else none :=
    Text.integer?_of_digits? read _
  rw [readLimit, read]
  by_cases below : number < 2 ^ 63
  · rw [if_pos below, if_pos below]
    rfl
  · rw [if_neg below, if_neg below]

theorem readLimit_ofNat {limit : Nat} (below : limit < 2 ^ 63) :
    readLimit (Text.ofNat limit) = limit := by
  rw [readLimit_of_digits? (Text.digits?_ofNat limit), if_pos below]

/-- A limit above zero is read as one above zero that is no greater, even if it is no integer of 64
bits. -/
theorem readLimit_ofNat_le {limit : Nat} (positive : 1 ≤ limit) :
    readLimit (Text.ofNat limit) ≠ 0 ∧ readLimit (Text.ofNat limit) ≤ limit := by
  rw [readLimit_of_digits? (Text.digits?_ofNat limit)]
  split
  · omega
  · omega

/-- A limit that holds a quote asks for a single row. -/
theorem readLimit_of_quote {literal : Text} {quote : Char} (isQuote : isQuote quote)
    (member : quote ∈ literal) : readLimit literal = 1 := by
  have plain : quote.isDigit = false ∧ quote ≠ '+' ∧ quote ≠ '-' := by
    rcases Query.eq_or_eq_of_isQuote isQuote with rfl | rfl
    all_goals decide
  rw [readLimit, Text.integer?_of_mem member plain.1 plain.2]

/-- A name that can stand in a list of fields. -/
structure IsListed (name : Text) : Prop where
  ne_nil : name ≠ []
  trimmed : Trimmed name
  undivided : ',' ∉ name

theorem comma_not_mem_of_blank {blanks : Text} (blank : Blank blanks) : ',' ∉ blanks :=
  fun member => absurd (blank ',' member) (by decide)

theorem map_trim_splitOn_intercalate {names : List Text} (ne_nil : names ≠ [])
    (listed : ∀ name ∈ names, IsListed name) {before after : Text} (before_blank : Blank before)
    (after_blank : Blank after) :
    ((before ++ List.intercalate [','] names ++ after).splitOn ',').map Text.trim = names := by
  induction names generalizing before with
  | nil => exact absurd rfl ne_nil
  | cons name rest induction =>
      obtain ⟨name_listed, rest_listed⟩ := List.forall_mem_cons.mp listed
      have before_name : ',' ∉ before ++ name := by
        simp [comma_not_mem_of_blank before_blank, name_listed.undivided]
      cases rest with
      | nil =>
          have undivided : ',' ∉ before ++ name ++ after := by
            rw [List.mem_append, not_or]
            exact ⟨before_name, comma_not_mem_of_blank after_blank⟩
          rw [List.intercalate_singleton, List.splitOn_eq_singleton undivided, List.map_singleton,
            Text.trim_around before_blank after_blank name_listed.trimmed]
      | cons next others =>
          have text_eq : before ++ List.intercalate [','] (name :: next :: others) ++ after =
              (before ++ name) ++
                ',' :: ([] ++ List.intercalate [','] (next :: others) ++ after) := by
            rw [List.intercalate_cons_cons]
            simp
          rw [text_eq, List.splitOn_append_cons_self_of_not_mem before_name, List.map_cons,
            Text.trim_behind before_blank name_listed.trimmed,
            induction (List.cons_ne_nil _ _) rest_listed Text.Blank.nil]

theorem readFields_intercalate {names : List Text} (ne_nil : names ≠ [])
    (listed : ∀ name ∈ names, IsListed name) {before after : Text} (before_blank : Blank before)
    (after_blank : Blank after) :
    readFields (before ++ List.intercalate [','] names ++ after) = names := by
  rw [readFields, map_trim_splitOn_intercalate ne_nil listed before_blank after_blank,
    List.filter_eq_self]
  intro name member
  simpa using (listed name member).ne_nil

theorem settled_of_comma {name front : Text} (plain : ∀ c ∈ name, isQuote c = false)
    (settled : Settled (name ++ ',' :: front)) : Settled front := by
  have outside : (Scan.start.run (name ++ [','])).quote? = none := by
    refine closed_of_plain fun c member => ?_
    rcases List.mem_append.mp member with inName | comma
    · exact plain c inName
    · rw [List.mem_singleton.mp comma]
      decide
  have split : name ++ ',' :: front = (name ++ [',']) ++ front := by simp
  obtain ⟨closed, ends⟩ := settled_iff.mp settled
  refine settled_iff.mpr ⟨?_, fun c last => ?_⟩
  · rw [split, Closed, Scan.run_append] at closed
    exact (Scan.quote?_run_congr outside.symm front).trans closed
  · apply ends c
    rw [split, List.getLast?_append, Option.mem_def.mp last]
    rfl

theorem keywordPositions_comma {word name rest : Text} (isWord : IsWord word)
    (undivided : ',' ∉ word) (plain : ∀ c ∈ name, isQuote c = false)
    (absentFirst : keywordPositions word name = [])
    (absentRest : keywordPositions word rest = []) :
    keywordPositions word (name ++ ',' :: rest) = [] := by
  have noComma {written : Text} (same : Text.sameIgnoringCase written word = true) :
      ',' ∉ written := fun comma => undivided (Text.mem_of_same (by decide) same comma)
  rw [List.eq_nil_iff_forall_not_mem]
  intro position member
  obtain ⟨front, written, behind, split, -, settled, same, starts⟩ :=
    (mem_occurrences_iff isWord.ne_nil).mp member
  rcases List.append_eq_append_iff.mp split with ⟨more, rfl, later⟩ | ⟨more, rfl, later⟩
  · cases more with
    | nil =>
        rw [List.nil_append] at later
        cases written with
        | nil => exact (isWord.of_same same).ne_nil rfl
        | cons c written =>
            obtain rfl := (List.cons.inj later).1
            exact noComma same (by simp)
    | cons c more =>
        rw [List.cons_append, List.cons.injEq] at later
        obtain ⟨rfl, rfl⟩ := later
        have inRest := (mem_occurrences_iff isWord.ne_nil).mpr
          ⟨more, written, behind, rfl, rfl, settled_of_comma plain settled, same, starts⟩
        change _ ∈ keywordPositions word _ at inRest
        rw [absentRest] at inRest
        exact absurd inRest (by simp)
  · -- The word starts in the first text, so it also ends there.
    rcases List.append_eq_append_iff.mp later with ⟨gap, rfl, end_eq⟩ | ⟨gap, rfl, end_eq⟩
    · have gapStarts : StartsBlank gap := by
        intro c head
        exact starts c (by rw [end_eq]; simp [Option.mem_def.mp head])
      have inFirst := (mem_occurrences_iff isWord.ne_nil).mpr
        ⟨front, written, gap, rfl, rfl, settled, same, gapStarts⟩
      change _ ∈ keywordPositions word _ at inFirst
      rw [absentFirst] at inFirst
      exact absurd inFirst (by simp)
    · cases gap with
      | nil =>
          rw [List.nil_append] at end_eq
          exact absurd (starts ',' (by simp [← end_eq])) (by decide)
      | cons c gap =>
          obtain rfl := (List.cons.inj end_eq).1
          exact noComma same (by simp)

theorem keywordPositions_intercalate {word : Text} (isWord : IsWord word) (undivided : ',' ∉ word)
    {names : List Text} (plain : ∀ name ∈ names, ∀ c ∈ name, isQuote c = false)
    (absent : ∀ name ∈ names, keywordPositions word name = []) :
    keywordPositions word (List.intercalate [','] names) = [] := by
  induction names with
  | nil => rfl
  | cons name rest induction =>
      have later := induction (fun other member => plain other (by simp [member]))
        (fun other member => absent other (by simp [member]))
      cases rest with
      | nil => simpa using absent name (by simp)
      | cons next others =>
          rw [List.intercalate_cons_cons, List.append_assoc, List.singleton_append]
          exact keywordPositions_comma isWord undivided (plain name (by simp))
            (absent name (by simp)) later

end Query

end ProxyHistory
