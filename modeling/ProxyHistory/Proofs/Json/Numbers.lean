import Mathlib.Tactic.SplitIfs
import ProxyHistory.Json.Printer
import ProxyHistory.Json.Reader
import ProxyHistory.Proofs.Query.Literals
import ProxyHistory.Proofs.Steps
import ProxyHistory.Proofs.Text.Utf8

/-!
# JSON numbers are read exactly

What is read as a numeral is one of its spellings, and each spelling is read as the numeral in front
of something that cannot continue it. Numbers are written as numerals, and an integer that fits a
machine word comes back as it was.
-/

namespace ProxyHistory.Json

/-- A text consists of digits, at least one. -/
def IsDigits (text : Text) : Prop :=
  text ≠ [] ∧ ∀ c ∈ text, c.isDigit = true

/-- Digits that may stand before a point: a zero in front stands alone. -/
def IsWhole (text : Text) : Prop :=
  IsDigits text ∧ (text.head? = some '0' → text = ['0'])

/-- A character may continue a number. -/
def continuesNumber (c : Char) : Bool :=
  c.isDigit || c == '.' || c == 'e' || c == 'E'

/-- A text cannot continue a number. -/
def StopsNumber (rest : RawText) : Prop :=
  ∀ c? ∈ rest.head?, c?.any continuesNumber = false

/-- A text does not start with a digit. -/
def StopsDigits (rest : RawText) : Prop :=
  ∀ c? ∈ rest.head?, c?.any Char.isDigit = false

theorem StopsNumber.stopsDigits {rest : RawText} (stops : StopsNumber rest) : StopsDigits rest := by
  intro c? head
  cases c? with
  | none => rfl
  | some c => exact (Bool.or_eq_false_iff.mp (Bool.or_eq_false_iff.mp (Bool.or_eq_false_iff.mp
      (stops _ head)).1).1).1

theorem StopsNumber.ne_cons {rest : RawText} (stops : StopsNumber rest) {mark : Char}
    (continues : continuesNumber mark = true) {after : RawText} : rest ≠ some mark :: after := by
  rintro rfl
  have stopped := stops _ rfl
  rw [Option.any_some, continues] at stopped
  cases stopped

/-- The sign of a number. -/
def sign (negative : Bool) : Text :=
  if negative then ['-'] else []

namespace Numeral

/-- The parts of a numeral are digits where they should be. -/
structure IsWellFormed (numeral : Numeral) : Prop where
  whole : IsWhole numeral.whole
  fraction : ∀ digits ∈ numeral.fraction?, IsDigits digits
  exponent : ∀ exponent ∈ numeral.exponent?, IsDigits exponent.2

/-- The written form of an exponent. -/
def exponentText : Option (Bool × Text) → Text
  | none => []
  | some (negative, digits) => 'e' :: (sign negative ++ digits)

/-- The written form of what stands behind the whole part. -/
def fractionText : Option Text → Text
  | none => []
  | some digits => '.' :: digits

/-- The written form of a numeral. -/
def text (numeral : Numeral) : Text :=
  numeral.whole ++ (fractionText numeral.fraction? ++ exponentText numeral.exponent?)

end Numeral

/-- The signs of exponents, and whether they are negative. -/
def exponentSigns : List (Text × Bool) :=
  [([], false), (['+'], false), (['-'], true)]

/-- The text is the exponent of a number, or is empty where there is none. -/
inductive WritesExponent : Text → Option (Bool × Text) → Prop
  | absent : WritesExponent [] none
  | present {mark : Char} {sign digits : Text} {negative : Bool} (marked : mark ∈ ['e', 'E'])
      (signed : (sign, negative) ∈ exponentSigns) :
      WritesExponent (mark :: (sign ++ digits)) (some (negative, digits))

/-- The text is the numeral. -/
inductive WritesNumeral : Text → Numeral → Prop
  | parts {numeral : Numeral} {exponent : Text} (formed : numeral.IsWellFormed)
      (writes : WritesExponent exponent numeral.exponent?) :
      WritesNumeral (numeral.whole ++ (Numeral.fractionText numeral.fraction? ++ exponent)) numeral

theorem WritesNumeral.exists_cons {written : Text} {numeral : Numeral}
    (writes : WritesNumeral written numeral) :
    ∃ c rest, written = c :: rest ∧ c.isDigit = true := by
  obtain @⟨_, exponent, formed, -⟩ := writes
  obtain ⟨c, rest, whole_eq⟩ := List.exists_cons_of_ne_nil formed.whole.1.1
  refine ⟨c, _, by rw [whole_eq, List.cons_append], ?_⟩
  exact formed.whole.1.2 c (by simp [whole_eq])

theorem writesNumeral_text {numeral : Numeral} (formed : numeral.IsWellFormed) :
    WritesNumeral numeral.text numeral := by
  refine .parts formed ?_
  cases numeral.exponent? with
  | none => exact .absent
  | some exponent =>
      obtain ⟨negative, digits⟩ := exponent
      refine .present (by decide) ?_
      cases negative <;> decide

/-! ## Parts -/

theorem readDigits_append {digits : Text} {rest : RawText} (all : ∀ c ∈ digits, c.isDigit = true)
    (stops : StopsDigits rest) : readDigits (digits.raw ++ rest) = (digits, rest) := by
  have taken : (rest.takeWhile fun c? => c?.any Char.isDigit) = [] := by
    cases rest with
    | nil => rfl
    | cons c? rest => exact List.takeWhile_cons_of_neg (by simp [stops c? rfl])
  have dropped : (rest.dropWhile fun c? => c?.any Char.isDigit) = rest := by
    cases rest with
    | nil => rfl
    | cons c? rest => exact List.dropWhile_cons_of_neg (by simp [stops c? rfl])
  have are : ∀ c? ∈ Text.raw digits, (c?.any Char.isDigit) = true := by
    simpa [Text.raw] using all
  rw [readDigits, List.takeWhile_append_of_pos are, List.dropWhile_append_of_pos are, taken,
    dropped, List.append_nil, Text.filterMap_raw]

theorem eq_of_readDigits {text rest : RawText} {digits : Text}
    (read : readDigits text = (digits, rest)) :
    text = digits.raw ++ rest ∧ ∀ c ∈ digits, c.isDigit = true := by
  obtain ⟨rfl, rfl⟩ := Prod.mk.inj read
  have are : ∀ c? ∈ text.takeWhile fun c? => c?.any Char.isDigit, c?.any Char.isDigit = true :=
    fun c? member => List.mem_takeWhile_imp member
  have noGaps : none ∉ text.takeWhile fun c? => c?.any Char.isDigit := by
    intro gap
    cases are none gap
  refine ⟨?_, fun c member => ?_⟩
  · rw [RawText.raw_filterMap noGaps, List.takeWhile_append_dropWhile]
  · obtain ⟨c?, taken, rfl⟩ := List.mem_filterMap.mp member
    exact are _ taken

theorem readWhole_append {whole : Text} {rest : RawText} (isWhole : IsWhole whole)
    (stops : StopsDigits rest) : readWhole (whole.raw ++ rest) = .ok (whole, rest) := by
  obtain ⟨⟨ne_nil, digits⟩, alone⟩ := isWhole
  obtain ⟨first, others, rfl⟩ := List.exists_cons_of_ne_nil ne_nil
  by_cases zero : first = '0'
  · subst zero
    obtain rfl : others = [] := (List.cons.inj (alone rfl)).2
    have ends : rest.head?.any (·.any Char.isDigit) = false := by
      cases rest with
      | nil => rfl
      | cons c? rest => exact stops c? rfl
    rw [Text.raw_cons, Text.raw_nil, List.singleton_append, readWhole, ends]
    rfl
  · have digit : (some first).any Char.isDigit = true := digits first List.mem_cons_self
    rw [Text.raw_cons, List.cons_append,
      readWhole.eq_3 _ _ (fun same => zero (Option.some.inj same)), if_pos digit,
      ← List.cons_append, ← Text.raw_cons, readDigits_append digits stops]

theorem isWhole_of_readWhole {text rest : RawText} {whole : Text}
    (read : readWhole text = .ok (whole, rest)) :
    text = whole.raw ++ rest ∧ IsWhole whole := by
  unfold readWhole at read
  split at read
  · cases read
  · split_ifs at read
    · cases read
    · cases read
      exact ⟨rfl, ⟨List.cons_ne_nil _ _, by decide⟩, fun _ => rfl⟩
  · rename_i c? behind noZero
    split_ifs at read with digit
    · obtain ⟨same, digits⟩ := eq_of_readDigits (Except.ok.inj read)
      cases whole with
      | nil =>
          have digits_eq : (readDigits (c? :: behind)).1 = [] :=
            congrArg Prod.fst (Except.ok.inj read)
          cases c? with
          | none => cases digit
          | some c =>
              rw [readDigits, List.takeWhile_cons_of_pos digit] at digits_eq
              cases digits_eq
      | cons first others =>
          refine ⟨same, ⟨List.cons_ne_nil _ _, digits⟩, fun zero => ?_⟩
          cases zero
          exact absurd (List.cons.inj same).1 noZero
    · cases read

theorem readFraction_append {digits : Text} {rest : RawText} (isDigits : IsDigits digits)
    (stops : StopsDigits rest) : readFraction (digits.raw ++ rest) = .ok (digits, rest) := by
  obtain ⟨first, others, rfl⟩ := List.exists_cons_of_ne_nil isDigits.1
  rw [readFraction, readDigits_append isDigits.2 stops]

theorem isDigits_of_readFraction {text rest : RawText} {digits : Text}
    (read : readFraction text = .ok (digits, rest)) :
    text = digits.raw ++ rest ∧ IsDigits digits := by
  unfold readFraction at read
  split at read
  · cases read
  · cases read
  · rename_i notEmpty
    obtain ⟨same, areDigits⟩ := eq_of_readDigits (Except.ok.inj read)
    exact ⟨same, fun empty => notEmpty rest (by rw [Except.ok.inj read, empty]), areDigits⟩

theorem readSign_append {sign digits : Text} {negative : Bool} {rest : RawText}
    (signed : (sign, negative) ∈ exponentSigns) (isDigits : IsDigits digits) :
    readSign (sign.raw ++ (digits.raw ++ rest)) = (negative, digits.raw ++ rest) := by
  obtain ⟨first, others, rfl⟩ := List.exists_cons_of_ne_nil isDigits.1
  have digit := isDigits.2 first List.mem_cons_self
  have unsigned : ∀ sign, sign.isDigit = false → some first ≠ some sign := by
    rintro sign noDigit ⟨⟩
    rw [noDigit] at digit
    cases digit
  simp only [exponentSigns, List.mem_cons, Prod.mk.injEq, List.not_mem_nil, or_false] at signed
  rcases signed with ⟨rfl, rfl⟩ | ⟨rfl, rfl⟩ | ⟨rfl, rfl⟩
  · rw [Text.raw_nil, List.nil_append, readSign]
    · exact fun _ same => unsigned '+' (by decide) (List.cons.inj same).1
    · exact fun _ same => unsigned '-' (by decide) (List.cons.inj same).1
  · rfl
  · rfl

theorem exists_eq_of_readSign {text rest : RawText} {negative : Bool}
    (read : readSign text = (negative, rest)) :
    ∃ sign : Text, (sign, negative) ∈ exponentSigns ∧ text = sign.raw ++ rest := by
  unfold readSign at read
  split at read
  · cases read
    exact ⟨['+'], by decide, rfl⟩
  · cases read
    exact ⟨['-'], by decide, rfl⟩
  · cases read
    exact ⟨[], by decide, rfl⟩

theorem readExponent_append {sign digits : Text} {negative : Bool} {rest : RawText}
    (signed : (sign, negative) ∈ exponentSigns) (isDigits : IsDigits digits)
    (stops : StopsDigits rest) :
    readExponent (sign.raw ++ (digits.raw ++ rest)) = .ok ((negative, digits), rest) := by
  rw [readExponent, readSign_append signed isDigits]
  obtain ⟨first, others, rfl⟩ := List.exists_cons_of_ne_nil isDigits.1
  dsimp only
  rw [readDigits_append isDigits.2 stops]

theorem exists_eq_of_readExponent {text rest : RawText} {negative : Bool} {digits : Text}
    (read : readExponent text = .ok ((negative, digits), rest)) :
    ∃ sign : Text, (sign, negative) ∈ exponentSigns ∧ text = sign.raw ++ (digits.raw ++ rest) ∧
      IsDigits digits := by
  unfold readExponent at read
  cases signed : readSign text with
  | mk negative' behind =>
      rw [signed] at read
      dsimp only at read
      obtain ⟨sign, isSign, rfl⟩ := exists_eq_of_readSign signed
      split at read
      · cases read
      · cases read
      · rename_i notEmpty found
        cases read
        obtain ⟨rfl, areDigits⟩ := eq_of_readDigits found
        exact ⟨sign, isSign, rfl, fun empty => notEmpty empty, areDigits⟩

/-! ## Numerals -/

theorem stopsDigits_exponent {exponent? : Option (Bool × Text)} {written : Text}
    (writes : WritesExponent written exponent?) {rest : RawText} (stops : StopsDigits rest) :
    StopsDigits (written.raw ++ rest) := by
  cases writes with
  | absent => exact stops
  | present marked signed =>
      rintro _ ⟨⟩
      have all : ∀ mark ∈ ['e', 'E'], mark.isDigit = false := by decide
      exact all _ marked

theorem stopsDigits_fraction {fraction? : Option Text} {rest : RawText} (stops : StopsDigits rest) :
    StopsDigits ((Numeral.fractionText fraction?).raw ++ rest) := by
  cases fraction? with
  | none => exact stops
  | some digits =>
      rintro _ ⟨⟩
      rfl

theorem readFraction?_append {fraction? : Option Text}
    (areDigits : ∀ digits ∈ fraction?, IsDigits digits) {rest : RawText} (stops : StopsDigits rest)
    (noPoint : ∀ after, rest ≠ some '.' :: after) :
    readFraction? ((Numeral.fractionText fraction?).raw ++ rest) = .ok (fraction?, rest) := by
  cases fraction? with
  | none => exact readFraction?.eq_2 rest noPoint
  | some digits =>
      rw [Numeral.fractionText, Text.raw_cons, List.cons_append, readFraction?,
        readFraction_append (areDigits digits rfl) stops]
      rfl

theorem exists_eq_of_readFraction? {text rest : RawText} {fraction? : Option Text}
    (read : readFraction? text = .ok (fraction?, rest)) :
    text = (Numeral.fractionText fraction?).raw ++ rest ∧
      ∀ digits ∈ fraction?, IsDigits digits := by
  unfold readFraction? at read
  split at read
  · obtain ⟨⟨digits, after⟩, readDigits, later⟩ := exists_of_bind_eq_ok read
    cases later
    obtain ⟨rfl, isDigits⟩ := isDigits_of_readFraction readDigits
    refine ⟨rfl, ?_⟩
    rintro _ ⟨⟩
    exact isDigits
  · cases read
    exact ⟨rfl, nofun⟩

theorem readExponent?_append {written : Text} {exponent? : Option (Bool × Text)}
    (writes : WritesExponent written exponent?)
    (areDigits : ∀ exponent ∈ exponent?, IsDigits exponent.2) {rest : RawText}
    (stops : StopsNumber rest) :
    readExponent? (written.raw ++ rest) = .ok (exponent?, rest) := by
  cases writes with
  | absent =>
      exact readExponent?.eq_3 rest (fun after => stops.ne_cons (by decide))
        fun after => stops.ne_cons (by decide)
  | present marked signed =>
      have read := readExponent_append signed (areDigits _ rfl) stops.stopsDigits
      simp only [List.mem_cons, List.not_mem_nil, or_false] at marked
      rw [Text.raw_cons, Text.raw_append, List.cons_append, List.append_assoc]
      rcases marked with rfl | rfl
      · rw [readExponent?, read]
        rfl
      · rw [readExponent?, read]
        rfl

theorem writesExponent_of_readExponent? {text rest : RawText} {exponent? : Option (Bool × Text)}
    (read : readExponent? text = .ok (exponent?, rest)) :
    ∃ written : Text, text = written.raw ++ rest ∧ WritesExponent written exponent? ∧
      ∀ exponent ∈ exponent?, IsDigits exponent.2 := by
  have present {mark : Char} (marked : mark ∈ ['e', 'E']) {behind : RawText} {negative : Bool}
      {digits : Text} (read : readExponent behind = .ok ((negative, digits), rest)) :
      ∃ written : Text, some mark :: behind = written.raw ++ rest ∧
        WritesExponent written (some (negative, digits)) ∧
          ∀ exponent ∈ some (negative, digits), IsDigits exponent.2 := by
    obtain ⟨sign, signed, rfl, isDigits⟩ := exists_eq_of_readExponent read
    refine ⟨mark :: (sign ++ digits), by simp, .present marked signed, ?_⟩
    rintro _ ⟨⟩
    exact isDigits
  unfold readExponent? at read
  split at read
  · obtain ⟨⟨exponent, after⟩, readDigits, later⟩ := exists_of_bind_eq_ok read
    cases later
    exact present (by decide) readDigits
  · obtain ⟨⟨exponent, after⟩, readDigits, later⟩ := exists_of_bind_eq_ok read
    cases later
    exact present (by decide) readDigits
  · cases read
    exact ⟨[], rfl, .absent, nofun⟩

/-- A numeral is read whole in front of what cannot continue it. -/
theorem WritesNumeral.readNumeral {written : Text} {numeral : Numeral}
    (writes : WritesNumeral written numeral) {rest : RawText} (stops : StopsNumber rest) :
    readNumeral (written.raw ++ rest) = .ok (numeral, rest) := by
  obtain @⟨⟨whole, fraction?, exponent?⟩, exponent, formed, writes⟩ := writes
  have exponentStops := stopsDigits_exponent writes stops.stopsDigits
  have noPoint (after : RawText) : exponent.raw ++ rest ≠ some '.' :: after := by
    cases writes with
    | absent => exact stops.ne_cons (by decide)
    | present marked signed =>
        rintro ⟨⟩
        exact absurd marked (by decide)
  rw [Json.readNumeral, Text.raw_append, Text.raw_append, List.append_assoc, List.append_assoc,
    readWhole_append formed.whole (stopsDigits_fraction exponentStops)]
  simp only [bind, Except.bind, readFraction?_append formed.fraction exponentStops noPoint,
    readExponent?_append writes formed.exponent stops]
  rfl

/-- What is read as a numeral is one of its spellings. -/
theorem writesNumeral_of_readNumeral {text rest : RawText} {numeral : Numeral}
    (read : readNumeral text = .ok (numeral, rest)) :
    ∃ written : Text, text = written.raw ++ rest ∧ WritesNumeral written numeral := by
  obtain ⟨⟨whole, behindWhole⟩, readFirst, later⟩ := exists_of_bind_eq_ok read
  obtain ⟨⟨fraction?, behindFraction⟩, readSecond, later⟩ := exists_of_bind_eq_ok later
  obtain ⟨⟨exponent?, behindExponent⟩, readThird, later⟩ := exists_of_bind_eq_ok later
  cases later
  obtain ⟨rfl, isWhole⟩ := isWhole_of_readWhole readFirst
  obtain ⟨rfl, isFraction⟩ := exists_eq_of_readFraction? readSecond
  obtain ⟨exponent, rfl, writes, isExponent⟩ := writesExponent_of_readExponent? readThird
  have formed : Numeral.IsWellFormed ⟨whole, fraction?, exponent?⟩ :=
    ⟨isWhole, isFraction, isExponent⟩
  exact ⟨whole ++ (Numeral.fractionText fraction? ++ exponent), by simp, .parts formed writes⟩

/-! ## Integers -/

theorem le_foldl_digits (value : Nat) (digits : Text) :
    value ≤ digits.foldl (fun number c => 10 * number + (c.toNat - '0'.toNat)) value := by
  induction digits generalizing value with
  | nil => exact Nat.le_refl value
  | cons c digits induction =>
      have later := induction (10 * value + (c.toNat - '0'.toNat))
      rw [List.foldl_cons]
      omega

/-- Digits that fit a machine word are all taken. -/
theorem significand_eq {value : Nat} {digits : Text}
    (fits : digits.foldl (fun number c => 10 * number + (c.toNat - '0'.toNat)) value < wordBound) :
    significand value digits =
      (digits.foldl (fun number c => 10 * number + (c.toNat - '0'.toNat)) value, 0) := by
  induction digits generalizing value with
  | nil => rfl
  | cons c digits induction =>
      have next := le_foldl_digits (10 * value + (c.toNat - '0'.toNat)) digits
      rw [List.foldl_cons] at fits ⊢
      rw [significand, if_pos (Nat.lt_of_le_of_lt next fits), induction fits]

theorem significand_ofNat {number : Nat} (fits : number < wordBound) :
    significand 0 (Text.ofNat number) = (number, 0) := by
  have value_eq :
      (Text.ofNat number).foldl (fun number c => 10 * number + (c.toNat - '0'.toNat)) 0 =
        number := by
    rw [← Nat.ofDigitChars_eq_foldl]
    exact Nat.ofDigitChars_ten_toDigits
  rw [significand_eq (by rwa [value_eq]), value_eq]

theorem isDigits_ofNat (number : Nat) : IsDigits (Text.ofNat number) :=
  ⟨Text.ofNat_ne_nil number, fun _ member => Text.isDigit_of_mem_ofNat member⟩

theorem head?_ofNat_ne {number : Nat} (positive : 0 < number) :
    (Text.ofNat number).head? ≠ some '0' := by
  have digit : ∀ value < 10, 0 < value → Nat.digitChar value ≠ '0' := by decide
  rw [Text.ofNat]
  induction number using Nat.strongRecOn with
  | ind number induction =>
      rw [Nat.toDigits_eq_if (by decide)]
      split
      · rename_i small
        simpa using digit number small positive
      · have shorter := induction (number / 10) (by omega) (by omega)
        rwa [List.head?_append_of_ne_nil _ Nat.toDigits_ne_nil]

theorem isWhole_ofNat (number : Nat) : IsWhole (Text.ofNat number) := by
  refine ⟨isDigits_ofNat number, fun zero => ?_⟩
  cases number with
  | zero => rfl
  | succ number => exact absurd zero (head?_ofNat_ne (Nat.succ_pos number))

/-- The numeral of a natural number. -/
def Numeral.ofNat (number : Nat) : Numeral where
  whole := Text.ofNat number
  fraction? := none
  exponent? := none

theorem Numeral.isWellFormed_ofNat (number : Nat) : (Numeral.ofNat number).IsWellFormed where
  whole := isWhole_ofNat number
  fraction := by simp [Numeral.ofNat]
  exponent := by simp [Numeral.ofNat]

theorem Numeral.text_ofNat (number : Nat) : (Numeral.ofNat number).text = Text.ofNat number := by
  simp [Numeral.text, Numeral.ofNat, Numeral.fractionText, Numeral.exponentText]

theorem Numeral.value?_ofNat {number : Nat} (fits : number < wordBound) :
    (Numeral.ofNat number).value? false = some (.integer number) := by
  simp [Numeral.value?, Numeral.ofNat, significand_ofNat fits]

theorem Numeral.value?_ofNat_negative {number : Nat} (positive : 0 < number)
    (fits : number ≤ Nat.pow 2 63) :
    (Numeral.ofNat number).value? true = some (.integer (-(number : Int))) := by
  have fitsWord : number < wordBound := Nat.lt_of_le_of_lt fits (by decide)
  have inRange : ¬ (number = 0 ∨ Nat.pow 2 63 < number) := by
    rw [not_or, Nat.not_lt]
    exact ⟨Nat.ne_of_gt positive, fits⟩
  simp [Numeral.value?, Numeral.ofNat, significand_ofNat fitsWord, inRange]

/-! ## Floating point numbers -/

theorem isDigit_of_mem_zeros {count : Nat} {c : Char} (member : c ∈ List.replicate count '0') :
    c.isDigit = true := by
  rw [List.eq_of_mem_replicate member]
  rfl

theorem IsDigits.append {first second : Text} (isDigits : IsDigits first)
    (more : ∀ c ∈ second, c.isDigit = true) : IsDigits (first ++ second) := by
  refine ⟨List.append_ne_nil_of_left_ne_nil isDigits.1 second, fun c member => ?_⟩
  exact (List.mem_append.mp member).elim (isDigits.2 c) (more c)

theorem IsWhole.append {first second : Text} (isWhole : IsWhole first)
    (more : ∀ c ∈ second, c.isDigit = true) (alone : first = ['0'] → second = []) :
    IsWhole (first ++ second) := by
  refine ⟨isWhole.1.append more, fun zero => ?_⟩
  rw [List.head?_append_of_ne_nil _ isWhole.1.1] at zero
  rw [alone (isWhole.2 zero), isWhole.2 zero, List.append_nil]

theorem isWhole_singleton {digit : Char} (isDigit : digit.isDigit = true) : IsWhole [digit] :=
  ⟨⟨List.cons_ne_nil digit [], by simpa using isDigit⟩, fun zero => by simpa using zero⟩

theorem IsWhole.take {digits : Text} (isWhole : IsWhole digits) {count : Nat} (some : 0 < count)
    (fewer : count < digits.length) : IsWhole (digits.take count) := by
  refine ⟨⟨?_, fun c member => isWhole.1.2 c (List.mem_of_mem_take member)⟩, fun zero => ?_⟩
  · rw [ne_eq, List.take_eq_nil_iff, not_or]
    exact ⟨by omega, isWhole.1.1⟩
  · rw [List.head?_take, if_neg (by omega)] at zero
    have length_eq := congrArg List.length (isWhole.2 zero)
    rw [List.length_singleton] at length_eq
    omega

/-- The sign and the digits of an exponent. -/
def exponentOf (value : Int) : Bool × Text :=
  (decide (value < 0), Text.ofNat value.natAbs)

theorem ofInt_eq (value : Int) :
    Text.ofInt value = sign (exponentOf value).1 ++ (exponentOf value).2 := by
  cases value with
  | ofNat number => rfl
  | negSucc number => simp [Text.ofInt, exponentOf, sign, Int.negSucc_lt_zero]

theorem isDigits_exponentOf (value : Int) : IsDigits (exponentOf value).2 :=
  isDigits_ofNat value.natAbs

namespace Numeral

theorem exists_text_fraction {whole fraction : Text} (isWhole : IsWhole whole)
    (isDigits : IsDigits fraction) :
    ∃ numeral : Numeral, numeral.IsWellFormed ∧ whole ++ '.' :: fraction = numeral.text := by
  refine ⟨⟨whole, some fraction, none⟩, ⟨isWhole, by simpa using isDigits, by simp⟩, ?_⟩
  rw [text, fractionText, exponentText, List.append_nil]

theorem exists_text_exponent {whole : Text} {fraction? : Option Text} (isWhole : IsWhole whole)
    (areDigits : ∀ digits ∈ fraction?, IsDigits digits) (exponent : Int) :
    ∃ numeral : Numeral, numeral.IsWellFormed ∧
      whole ++ (fractionText fraction? ++ 'e' :: Text.ofInt exponent) = numeral.text := by
  refine ⟨⟨whole, fraction?, some (exponentOf exponent)⟩, ⟨isWhole, areDigits, ?_⟩, ?_⟩
  · rintro _ ⟨⟩
    exact isDigits_exponentOf exponent
  · rw [text, exponentText, ofInt_eq]

end Numeral

/-- Digits with a decimal point, and with an exponent if the point would be far off, are a
numeral. -/
theorem exists_place_eq {digits : Text} {exponent : Int} (isWhole : IsWhole digits)
    (small : digits = ['0'] → exponent ≤ 0) :
    ∃ numeral : Numeral, numeral.IsWellFormed ∧ Binary64.place digits exponent = numeral.text := by
  unfold Binary64.place
  dsimp only
  split
  · have padded : IsWhole (digits ++ List.replicate exponent.toNat '0') := by
      refine isWhole.append (fun c => isDigit_of_mem_zeros) fun single => ?_
      rw [Int.toNat_of_nonpos (small single), List.replicate_zero]
    exact Numeral.exists_text_fraction padded (isWhole_singleton rfl).1
  · rename_i notPadded
    split
    · have front : IsWhole (digits.take (digits.length + exponent).toNat) :=
        isWhole.take (by omega) (by omega)
      have back : IsDigits (digits.drop (digits.length + exponent).toNat) := by
        refine ⟨fun empty => ?_, fun c member => isWhole.1.2 c (List.mem_of_mem_drop member)⟩
        have length_le := List.drop_eq_nil_iff.mp empty
        omega
      exact Numeral.exists_text_fraction front back
    · split
      · have padded :
            IsDigits (List.replicate (-(digits.length + exponent)).toNat '0' ++ digits) := by
          refine ⟨List.append_ne_nil_of_right_ne_nil _ isWhole.1.1, fun c member => ?_⟩
          exact (List.mem_append.mp member).elim isDigit_of_mem_zeros (isWhole.1.2 c)
        exact Numeral.exists_text_fraction (isWhole_singleton rfl) padded
      · split
        · rename_i first second rest _ _
          have digit := isWhole.1.2 first List.mem_cons_self
          have more : ∀ digits ∈ some (second :: rest), IsDigits digits := by
            rintro _ ⟨⟩
            refine ⟨List.cons_ne_nil second rest, fun c member => ?_⟩
            exact isWhole.1.2 c (List.mem_cons_of_mem first member)
          exact Numeral.exists_text_exponent (isWhole_singleton digit) more _
        · have unfractioned : ∀ digits ∈ (none : Option Text), IsDigits digits := by simp
          exact Numeral.exists_text_exponent isWhole unfractioned _

theorem dropZeros_ne_zero {fuel digits : Nat} (positive : digits ≠ 0) (exponent : Int) :
    (Binary64.dropZeros fuel digits exponent).1 ≠ 0 := by
  induction fuel generalizing digits exponent with
  | zero => exact positive
  | succ fuel induction =>
      rw [Binary64.dropZeros]
      split
      · exact induction (by omega) (exponent + 1)
      · exact positive

theorem quotient_pos {significand : Nat} (positive : 0 < significand) (exponent : Int) :
    0 < (Binary64.quotient significand exponent).1 := by
  cases exponent with
  | ofNat power => exact Nat.mul_pos positive (Nat.pow_pos (by decide))
  | negSucc power => exact positive

theorem scaleBy_pos {value : Nat × Nat} (positive : 0 < value.1) (exponent : Int) :
    0 < (Binary64.scaleBy exponent value).1 := by
  cases exponent with
  | ofNat power => exact Nat.mul_pos positive (Nat.pow_pos (by decide))
  | negSucc power => exact positive

/-- Whether a decimal lies between the bounds of a number on a grid. -/
def fitsGrid (low high : Nat × Nat) (inclusive : Bool) (digits : Nat) : Bool :=
  if inclusive then low.1 ≤ digits * low.2 && digits * high.2 ≤ high.1
  else low.1 < digits * low.2 && digits * high.2 < high.1

theorem fitsGrid_of_onGrid? {value low high : Nat × Nat} {inclusive : Bool} {grid : Int}
    {digits : Nat} (found : Binary64.onGrid? value low high inclusive grid = some digits) :
    fitsGrid (Binary64.scaleBy (-grid) low) (Binary64.scaleBy (-grid) high) inclusive digits := by
  have either (fits : Nat → Bool) (nearer farther : Nat)
      (chosen : (if fits nearer then some nearer else if fits farther then some farther else none) =
        some digits) : fits digits = true := by
    split at chosen
    · cases chosen
      assumption
    · split at chosen
      · cases chosen
        assumption
      · cases chosen
  exact either (fitsGrid _ _ inclusive) _ _ found

theorem onGrid?_ne_zero {value low high : Nat × Nat} {inclusive : Bool} {grid : Int} {digits : Nat}
    (positive : 0 < low.1)
    (found : Binary64.onGrid? value low high inclusive grid = some digits) : digits ≠ 0 := by
  rintro rfl
  have scaled := scaleBy_pos positive (-grid)
  have fits := fitsGrid_of_onGrid? found
  rw [fitsGrid, Nat.zero_mul] at fits
  split at fits
  · simp only [Bool.and_eq_true, decide_eq_true_eq] at fits
    omega
  · simp at fits

theorem shortest_cases {number : Binary64} (positive : number.parts.1 ≠ 0) :
    number.shortest.1 ≠ 0 ∨ number.shortest = (0, 0) := by
  unfold Binary64.shortest
  dsimp only
  split
  · rename_i digits grid found
    obtain ⟨candidate, -, placed⟩ := List.exists_of_findSome?_eq_some found
    obtain ⟨onIt, isOnGrid, same⟩ := Option.map_eq_some_iff.mp placed
    cases same
    refine .inl (dropZeros_ne_zero (onGrid?_ne_zero (quotient_pos ?_ _) isOnGrid) grid)
    split <;> omega
  · exact .inr rfl

/-- A floating point number is written as a numeral behind its sign. -/
theorem exists_render_eq (number : Binary64) :
    ∃ numeral : Numeral, numeral.IsWellFormed ∧
      number.render = sign number.isNegative ++ numeral.text := by
  unfold Binary64.render
  dsimp only
  split
  · have zero : IsWhole ['0'] := isWhole_singleton rfl
    obtain ⟨numeral, formed, same⟩ := Numeral.exists_text_fraction zero zero.1
    exact ⟨numeral, formed, congrArg _ same⟩
  · rename_i positive
    have small : Text.ofNat number.shortest.1 = ['0'] → number.shortest.2 ≤ 0 := by
      intro zero
      rcases shortest_cases positive with nonzero | same
      · exact absurd (congrArg List.head? zero) (head?_ofNat_ne (Nat.pos_of_ne_zero nonzero))
      · exact Int.le_of_eq (congrArg Prod.snd same)
    obtain ⟨numeral, formed, same⟩ := exists_place_eq (isWhole_ofNat number.shortest.1) small
    exact ⟨numeral, formed, congrArg _ same⟩

/-! ## Numbers -/

/-- What a number is read as: its value, or in the lenient way nothing if it is out of range. -/
def numberValue? (strict negative : Bool) (numeral : Numeral) : Option Json :=
  (numeral.value? negative).or (if strict then none else some .null)

theorem kind_of_value? {numeral : Numeral} {negative : Bool} {value : Json}
    (valued : numeral.value? negative = some value) :
    (∃ number, value = .integer number) ∨ ∃ number, value = .real number := by
  have scaled {digits : Nat} {exponent : Int} {value : Json}
      (is : (Binary64.scaled? negative digits exponent).map Json.real = some value) :
      (∃ number, value = .integer number) ∨ ∃ number, value = .real number := by
    obtain ⟨number, -, rfl⟩ := Option.map_eq_some_iff.mp is
    exact .inr ⟨number, rfl⟩
  unfold Numeral.value? at valued
  dsimp only at valued
  split at valued
  · split_ifs at valued
    · exact scaled valued
    · cases valued
      exact .inl ⟨_, rfl⟩
    · exact scaled valued
    · cases valued
      exact .inl ⟨_, rfl⟩
  · exact scaled valued
  · split_ifs at valued <;> exact scaled valued

theorem kind_of_numberValue? {numeral : Numeral} {negative : Bool} {value : Json}
    (valued : numberValue? true negative numeral = some value) :
    (∃ number, value = .integer number) ∨ ∃ number, value = .real number := by
  rw [numberValue?, if_pos rfl, Option.or_none] at valued
  exact kind_of_value? valued

theorem readNumber_append {written : Text} {numeral : Numeral}
    (writes : WritesNumeral written numeral) {strict negative : Bool} {value : Json}
    (valued : numberValue? strict negative numeral = some value) {rest : RawText}
    (stops : StopsNumber rest) :
    readNumber strict negative (written.raw ++ rest) = .ok (value, rest) := by
  rw [readNumber, writes.readNumeral stops]
  simp only [bind, Except.bind]
  rw [numberValue?] at valued
  cases found : numeral.value? negative with
  | some read =>
      rw [found] at valued
      cases valued
      rfl
  | none =>
      rw [found] at valued
      cases strict with
      | true => cases valued
      | false =>
          cases valued
          rfl

theorem writesNumeral_of_readNumber {strict negative : Bool} {text rest : RawText} {value : Json}
    (read : readNumber strict negative text = .ok (value, rest)) :
    ∃ (written : Text) (numeral : Numeral), text = written.raw ++ rest ∧
      WritesNumeral written numeral ∧ numberValue? strict negative numeral = some value := by
  obtain ⟨⟨numeral, after⟩, readParts, later⟩ := exists_of_bind_eq_ok read
  obtain ⟨written, rfl, writes⟩ := writesNumeral_of_readNumeral readParts
  dsimp only at later
  cases found : numeral.value? negative with
  | some valued =>
      rw [found] at later
      cases later
      exact ⟨written, numeral, rfl, writes, by rw [numberValue?, found]; rfl⟩
  | none =>
      rw [found] at later
      dsimp only at later
      split_ifs at later with strictly
      · cases later
      · cases later
        exact ⟨written, numeral, rfl, writes, by rw [numberValue?, found, if_neg strictly]; rfl⟩

end ProxyHistory.Json
