import ProxyHistory.Query.Keyword
import ProxyHistory.Text.Case

/-!
# ASCII letters

Equality up to the case of ASCII letters relates letters to letters only, so it keeps blanks and
quotes, and texts that it relates have the same upper case.
-/

namespace ProxyHistory.Text

theorem isAlpha_iff (c : Char) :
    c.isAlpha ↔ (65 ≤ c.toNat ∧ c.toNat ≤ 90) ∨ (97 ≤ c.toNat ∧ c.toNat ≤ 122) := by
  unfold Char.isAlpha Char.isUpper Char.isLower
  simp only [Bool.or_eq_true, Bool.and_eq_true, decide_eq_true_eq, UInt32.le_iff_toNat_le]
  rfl

theorem toNat_toLower (c : Char) :
    c.toLower.toNat = if 65 ≤ c.toNat ∧ c.toNat ≤ 90 then c.toNat + 32 else c.toNat := by
  unfold Char.toLower
  simp only [Char.toNat, ge_iff_le, UInt32.le_iff_toNat_le]
  split
  · rename_i upper
    change 65 ≤ c.val.toNat ∧ c.val.toNat ≤ 90 at upper
    rw [if_pos upper, UInt32.toNat_add, show ('a'.val - 'A'.val).toNat = 32 from rfl]
    omega
  · rename_i notUpper
    change ¬(65 ≤ c.val.toNat ∧ c.val.toNat ≤ 90) at notUpper
    rw [if_neg notUpper]

theorem toNat_toUpper (c : Char) :
    c.toUpper.toNat = if 97 ≤ c.toNat ∧ c.toNat ≤ 122 then c.toNat - 32 else c.toNat := by
  unfold Char.toUpper
  simp only [Char.toNat, UInt32.le_iff_toNat_le]
  split
  · rename_i lower
    change 97 ≤ c.val.toNat ∧ c.val.toNat ≤ 122 at lower
    rw [if_pos lower, UInt32.toNat_add, show ('A'.val - 'a'.val).toNat = 2 ^ 32 - 32 from rfl]
    omega
  · rename_i notLower
    change ¬(97 ≤ c.val.toNat ∧ c.val.toNat ≤ 122) at notLower
    rw [if_neg notLower]

theorem isAlpha_toLower (c : Char) : c.toLower.isAlpha ↔ c.isAlpha := by
  rw [isAlpha_iff, isAlpha_iff, toNat_toLower]
  split <;> omega

theorem isBlank_toLower (c : Char) : isBlank c.toLower = isBlank c := by
  rw [Bool.eq_iff_iff]
  simp only [isBlank, toNat_toLower, Bool.or_eq_true, Bool.and_eq_true, decide_eq_true_eq,
    beq_iff_eq]
  split <;> omega

theorem isQuote_toLower (c : Char) : Query.isQuote c.toLower = Query.isQuote c := by
  rw [Bool.eq_iff_iff]
  simp only [Query.isQuote, Bool.or_eq_true, beq_iff_eq, ← Char.toNat_inj, toNat_toLower]
  simp only [show '\''.toNat = 39 from rfl, show '"'.toNat = 34 from rfl]
  split <;> omega

theorem sameIgnoringCase_iff {first second : Text} :
    sameIgnoringCase first second = true ↔ asciiLower first = asciiLower second := by
  simp [sameIgnoringCase]

theorem sameIgnoringCase_self (text : Text) : sameIgnoringCase text text = true :=
  sameIgnoringCase_iff.mpr rfl

theorem length_eq_of_same {first second : Text} (same : sameIgnoringCase first second = true) :
    first.length = second.length := by
  simpa [asciiLower] using congrArg List.length (sameIgnoringCase_iff.mp same)

/-- A property that case does not change holds of all characters of two such texts or of neither. -/
theorem forall_mem_of_same {property : Char → Prop}
    (lower : ∀ c : Char, property c.toLower ↔ property c) {first second : Text}
    (same : sameIgnoringCase first second = true) (holds : ∀ c ∈ second, property c) :
    ∀ c ∈ first, property c := by
  intro c member
  have lowered : c.toLower ∈ asciiLower second := by
    rw [← sameIgnoringCase_iff.mp same]
    exact List.mem_map_of_mem member
  obtain ⟨other, other_member, other_eq⟩ := List.mem_map.mp lowered
  rw [← lower, ← other_eq, lower]
  exact holds other other_member

theorem mem_of_same {mark : Char} (noLetter : mark.toNat < 65) {first second : Text}
    (same : sameIgnoringCase first second = true) (member : mark ∈ first) : mark ∈ second := by
  have lower (c : Char) : c.toLower ≠ mark ↔ c ≠ mark := by
    rw [ne_eq, ne_eq, ← Char.toNat_inj, ← Char.toNat_inj, toNat_toLower]
    split <;> omega
  refine Decidable.byContradiction fun absent => ?_
  have different : ∀ c ∈ second, c ≠ mark := fun c inSecond equal => absent (equal ▸ inSecond)
  exact forall_mem_of_same lower same different mark member rfl

@[simp]
theorem upper_append (first second : Text) :
    upper (first ++ second) = upper first ++ upper second := by
  simp [upper]

/-- The upper case of a text is a word of capital letters if both are the same up to their case. -/
theorem upper_of_same {written word : Text} (capital : ∀ c ∈ word, 65 ≤ c.toNat ∧ c.toNat ≤ 90)
    (same : sameIgnoringCase written word = true) : upper written = word := by
  rw [sameIgnoringCase_iff] at same
  induction written generalizing word with
  | nil =>
      simp only [asciiLower, List.map_nil, List.nil_eq, List.map_eq_nil_iff] at same
      rw [same]
      rfl
  | cons c written induction =>
      cases word with
      | nil => simp [asciiLower] at same
      | cons letter word =>
          simp only [asciiLower, List.map_cons, List.cons.injEq] at same
          obtain ⟨sameLetter, sameRest⟩ := same
          have bounds := capital letter (by simp)
          have code := congrArg Char.toNat sameLetter
          rw [toNat_toLower, toNat_toLower, if_pos bounds] at code
          have ascii : c.toNat < 0x80 := by
            split at code <;> omega
          have upperCode : c.toUpper = letter := by
            rw [← Char.toNat_inj, toNat_toUpper]
            split at code <;> split <;> omega
          have rest := induction (fun d member => capital d (by simp [member])) sameRest
          rw [upper, List.flatMap_cons, ← upper, rest, upperChar, if_pos ascii, upperCode]
          rfl

/-- A character with a single one as its lower case puts that into the lower case of a text. -/
theorem mem_lower {text : Text} {c lowered : Char} (single : lowerChar c = [lowered])
    (notSigma : c ≠ '\u03A3') (member : c ∈ text) : lowered ∈ lower text := by
  have inAfter (before : Text) : lowered ∈ lowerAfter before text := by
    induction text generalizing before with
    | nil => simp at member
    | cons first rest induction =>
        rw [lowerAfter, List.mem_append]
        rcases List.mem_cons.mp member with same | member
        · rw [← same, if_neg notSigma, single]
          exact .inl (by simp)
        · exact .inr (induction member _)
  exact inAfter []

theorem lower_of_ascii {text : Text} (ascii : ∀ c ∈ text, c.toNat < 0x80) :
    lower text = asciiLower text := by
  have after (before : Text) : lowerAfter before text = asciiLower text := by
    induction text generalizing before with
    | nil => rfl
    | cons c rest induction =>
        obtain ⟨first, others⟩ := List.forall_mem_cons.mp ascii
        have notSigma : c ≠ '\u03A3' := by
          rintro rfl
          exact absurd first (by decide)
        rw [lowerAfter, if_neg notSigma, lowerChar, if_pos first, induction others]
        rfl
  exact after []

theorem lower_of_isAlpha {text : Text} (letters : ∀ c ∈ text, c.isAlpha) :
    lower text = asciiLower text := by
  refine lower_of_ascii fun c member => ?_
  have code := (isAlpha_iff c).mp (letters c member)
  omega

/-- The codes of the blank characters. -/
def blankCodes : List Nat :=
  [0x09, 0x0A, 0x0B, 0x0C, 0x0D, 0x20, 0x85, 0xA0, 0x1680, 0x2000, 0x2001, 0x2002, 0x2003, 0x2004,
    0x2005, 0x2006, 0x2007, 0x2008, 0x2009, 0x200A, 0x2028, 0x2029, 0x202F, 0x205F, 0x3000]

theorem mem_blankCodes {c : Char} (blank : isBlank c = true) : c.toNat ∈ blankCodes := by
  simp only [isBlank, Bool.or_eq_true, Bool.and_eq_true, decide_eq_true_eq, beq_iff_eq] at blank
  simp only [blankCodes, List.mem_cons, List.not_mem_nil, or_false]
  omega

theorem of_isBlank (holds : Char → Prop) (all : ∀ code ∈ blankCodes, holds (Char.ofNat code))
    {c : Char} (blank : isBlank c = true) : holds c := by
  have here := all c.toNat (mem_blankCodes blank)
  rwa [Char.ofNat_toNat] at here

theorem lowerChar_of_isBlank {c : Char} (blank : isBlank c = true) : lowerChar c = [c] :=
  of_isBlank (fun c => lowerChar c = [c]) (by decide +kernel) blank

theorem isWordChar_of_isBlank {c : Char} (blank : isBlank c = true) : isWordChar c = false :=
  of_isBlank (isWordChar · = false) (by decide +kernel) blank

theorem isDecimalDigit_of_isBlank {c : Char} (blank : isBlank c = true) :
    isDecimalDigit c = false :=
  of_isBlank (isDecimalDigit · = false) (by decide +kernel) blank

end ProxyHistory.Text
