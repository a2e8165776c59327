import ProxyHistory.Proofs.Text.Lowering

/-!
# Lower case between blanks

It does not matter whether a text is trimmed before or after it is put in lower case: blanks have no
case, and they are no letters that a sigma could stand next to. The star has no case either.
-/

namespace ProxyHistory.Text

/-! ## Characters without case -/

/-- The codes of the star and of the blanks. -/
def caselessCodes : List Nat :=
  '*'.toNat :: blankCodes

/-- No run of the case mapping leads to the star or to a blank. -/
theorem past_of_mem_lowerRuns : ∀ run ∈ Case.lowerRuns, ∀ code ∈ caselessCodes,
    code < run.first + run.shift ∨ run.last + run.shift < code := by
  decide +kernel

/-- The star and the blanks are the lower case of nothing but themselves. -/
theorem eq_of_mem_lowerChar {c d : Char} (caseless : d.toNat ∈ caselessCodes)
    (member : d ∈ lowerChar c) : d = c := by
  have noLetter : ¬ (97 ≤ d.toNat ∧ d.toNat ≤ 122) ∧ d.toNat ≠ 0 ∧ d ≠ '\u0307' := by
    have all : ∀ code ∈ caselessCodes,
        ¬ (97 ≤ code ∧ code ≤ 122) ∧ code ≠ 0 ∧ code ≠ 0x307 := by decide
    obtain ⟨noLower, notNull, notDot⟩ := all _ caseless
    exact ⟨noLower, notNull, mt (congrArg Char.toNat) notDot⟩
  rw [lowerChar] at member
  split at member
  · have code := congrArg Char.toNat (List.mem_singleton.mp member)
    rw [toNat_toLower] at code
    rw [← Char.toNat_inj]
    split at code <;> omega
  · split at member
    · rcases List.mem_pair.mp member with rfl | rfl
      · exact absurd (by decide) noLetter.1
      · exact absurd rfl noLetter.2.2
    · rw [List.mem_singleton, Case.counterpart] at member
      split at member
      · rename_i target found
        obtain ⟨run, inRuns, counterpart⟩ := List.exists_of_findSome?_eq_some found
        obtain ⟨inRun, leads⟩ := Case.Run.counterpart?_eq_some_iff.mp counterpart
        have past := past_of_mem_lowerRuns run inRuns _ caseless
        by_cases valid : target.isValidChar
        · have code : d.toNat = target := by
            rw [member, Char.ofNat, dif_pos valid]
            rfl
          omega
        · rw [Char.ofNat, dif_neg valid] at member
          subst member
          exact absurd rfl noLetter.2.1
      · exact member

/-- The lower case of a text is that of its first character, where only the star and the blanks
become a star or a blank, and then that of the others. -/
theorem exists_lowerAfter_cons_eq (before : Text) (c : Char) (rest : Text) :
    ∃ piece ≠ [], (∀ d ∈ piece, d.toNat ∈ caselessCodes → d = c) ∧
      lowerAfter before (c :: rest) = piece ++ lowerAfter (c :: before) rest := by
  refine ⟨_, ?_, ?_, lowerAfter.eq_2 ..⟩
  · split
    · exact List.cons_ne_nil _ _
    · exact lowerChar_ne_nil c
  · intro d member caseless
    split at member
    · rw [List.mem_singleton] at member
      split at member
      all_goals
        subst member
        exact absurd caseless (by decide)
    · exact eq_of_mem_lowerChar caseless member

theorem exists_lowerAfter_append_eq (before front back : Text) :
    ∃ lowered, lowerAfter before (front ++ back) =
      lowered ++ lowerAfter (front.reverse ++ before) back := by
  induction front generalizing before with
  | nil => exact ⟨[], rfl⟩
  | cons c front induction =>
      obtain ⟨piece, -, -, first⟩ := exists_lowerAfter_cons_eq before c (front ++ back)
      obtain ⟨lowered, others⟩ := induction (c :: before)
      refine ⟨piece ++ lowered, ?_⟩
      rw [List.cons_append, first, others, List.append_assoc, List.reverse_cons, List.append_assoc,
        List.singleton_append]

/-- Only the star is a star in lower case. -/
theorem lower_eq_star_iff {text : Text} : lower text = ['*'] ↔ text = ['*'] := by
  constructor
  · intro star
    cases text with
    | nil => cases star
    | cons c rest =>
        obtain ⟨piece, pieceSome, fixed, split⟩ := exists_lowerAfter_cons_eq [] c rest
        obtain ⟨d, others, rfl⟩ := List.exists_cons_of_ne_nil pieceSome
        rw [lower, split, List.cons_append, List.cons_eq_cons, List.append_eq_nil_iff] at star
        obtain ⟨rfl, -, empty⟩ := star
        rw [← fixed '*' List.mem_cons_self List.mem_cons_self]
        cases rest with
        | nil => rfl
        | cons next more =>
            obtain ⟨piece, pieceSome, -, split⟩ := exists_lowerAfter_cons_eq [c] next more
            rw [split, List.append_eq_nil_iff] at empty
            exact absurd empty.1 pieceSome
  · rintro rfl
    decide

theorem trimmed_lower {text : Text} (trimmed : Trimmed text) : Trimmed (lower text) := by
  have unblank (before : Text) {c : Char} (rest : Text) (notBlank : isBlank c = false) :
      ∃ piece ≠ [], (∀ d ∈ piece, isBlank d = false) ∧
        lowerAfter before (c :: rest) = piece ++ lowerAfter (c :: before) rest := by
    obtain ⟨piece, pieceSome, fixed, split⟩ := exists_lowerAfter_cons_eq before c rest
    refine ⟨piece, pieceSome, fun d member => ?_, split⟩
    rw [Bool.eq_false_iff]
    intro blank
    rw [fixed d member (List.mem_cons_of_mem _ (mem_blankCodes blank)), notBlank] at blank
    contradiction
  constructor
  · intro d head
    cases text with
    | nil => cases head
    | cons c rest =>
        obtain ⟨piece, pieceSome, plain, split⟩ := unblank [] rest (trimmed.1 c rfl)
        rw [lower, split, List.head?_append_of_ne_nil _ pieceSome] at head
        exact plain d (List.mem_of_mem_head? head)
  · intro d last
    rcases List.eq_nil_or_concat' text with rfl | ⟨front, c, rfl⟩
    · cases last
    · obtain ⟨piece, pieceSome, plain, split⟩ :=
        unblank (front.reverse ++ []) [] (trimmed.2 c List.getLast?_concat)
      obtain ⟨lowered, inFront⟩ := exists_lowerAfter_append_eq [] front [c]
      rw [lower, inFront, split, lowerAfter, List.append_nil,
        List.getLast?_append_of_ne_nil _ pieceSome] at last
      exact plain d (List.mem_of_getLast? last)

/-! ## Blanks around a text -/

theorem isCased_of_isBlank {c : Char} (blank : isBlank c = true) : isCased c = false :=
  of_isBlank (isCased · = false) (by decide +kernel) blank

theorem isCaseIgnorable_of_isBlank {c : Char} (blank : isBlank c = true) :
    isCaseIgnorable c = false :=
  of_isBlank (isCaseIgnorable · = false) (by decide +kernel) blank

theorem ne_sigma_of_isBlank {c : Char} (blank : isBlank c = true) : c ≠ '\u03A3' := by
  rintro rfl
  exact absurd blank (by decide)

theorem startsCased_append_blank (text : Text) {blanks : Text} (blank : Blank blanks) :
    startsCased (text ++ blanks) = startsCased text := by
  rw [startsCased, startsCased, List.dropWhile_append]
  cases kept : text.dropWhile isCaseIgnorable with
  | cons c rest => rfl
  | nil =>
      cases blanks with
      | nil => rfl
      | cons c rest =>
          obtain ⟨first, -⟩ := blank.of_mem
          simp [isCaseIgnorable_of_isBlank first, isCased_of_isBlank first]

/-- Blanks further in front do not matter for the lower case of a text. -/
theorem lowerAfter_append_blank (before text : Text) {blanks : Text} (blank : Blank blanks) :
    lowerAfter (before ++ blanks) text = lowerAfter before text := by
  induction text generalizing before with
  | nil => rfl
  | cons c rest induction =>
      have later := induction (c :: before)
      rw [List.cons_append] at later
      rw [lowerAfter, lowerAfter, startsCased_append_blank before blank, later]

theorem lowerAfter_blank_append (before : Text) {blanks : Text} (blank : Blank blanks)
    (text : Text) :
    lowerAfter before (blanks ++ text) = blanks ++ lowerAfter (blanks.reverse ++ before) text := by
  induction blanks generalizing before with
  | nil => rfl
  | cons c rest induction =>
      obtain ⟨first, others⟩ := blank.of_mem
      rw [List.cons_append, lowerAfter, if_neg (ne_sigma_of_isBlank first),
        lowerChar_of_isBlank first, induction _ others]
      simp

theorem lowerAfter_text_append_blank (before text : Text) {blanks : Text} (blank : Blank blanks) :
    lowerAfter before (text ++ blanks) = lowerAfter before text ++ blanks := by
  induction text generalizing before with
  | nil =>
      have alone := lowerAfter_blank_append before blank []
      simpa [lowerAfter] using alone
  | cons c rest induction =>
      rw [List.cons_append, lowerAfter, lowerAfter, startsCased_append_blank rest blank, induction,
        List.append_assoc]

theorem lower_trim (text : Text) : lower (trim text) = trim (lower text) := by
  obtain ⟨before, after, beforeBlank, afterBlank, split⟩ := exists_blanks_trim text
  have around : lower text = before ++ lower (trim text) ++ after := by
    have front := lowerAfter_append_blank [] (trim text) beforeBlank.reverse
    rw [List.nil_append] at front
    conv_lhs => rw [split]
    rw [lower, lowerAfter_text_append_blank [] _ afterBlank,
      lowerAfter_blank_append [] beforeBlank, List.append_nil, front, lower]
  have trimmed : Trimmed (lower (trim text)) := trimmed_lower (trimmed_trim text)
  rw [around, trim_around beforeBlank afterBlank trimmed]

end ProxyHistory.Text
