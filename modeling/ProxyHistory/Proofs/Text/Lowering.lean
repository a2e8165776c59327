import Mathlib.Data.List.Infix
import ProxyHistory.Proofs.Text.Avoids
import ProxyHistory.Proofs.Text.Blank
import ProxyHistory.Proofs.Text.Letters
import ProxyHistory.Proofs.Text.Search

/-!
# Words in lower case

A word of native letters, which are the lower case of ASCII letters only, occurs in the lower case
of a text exactly where it occurs if only the ASCII letters are put in lower case. Blanks around the
text do not matter.
-/

namespace ProxyHistory.Text

/-! ## Parts beside texts that share no character with them -/

section Infix

variable {mark piece : Text} (ne_nil : mark ≠ []) (apart : Avoids mark piece)

include ne_nil apart

theorem not_prefix_append_of_avoids (piece_ne_nil : piece ≠ []) (rest : Text) :
    ¬ mark <+: piece ++ rest := by
  obtain ⟨first, others, rfl⟩ := List.exists_cons_of_ne_nil ne_nil
  obtain ⟨c, piece, rfl⟩ := List.exists_cons_of_ne_nil piece_ne_nil
  rw [List.cons_append, List.cons_prefix_cons]
  rintro ⟨rfl, -⟩
  exact apart first List.mem_cons_self List.mem_cons_self

theorem infix_append_iff (rest : Text) : mark <:+: piece ++ rest ↔ mark <:+: rest := by
  induction piece with
  | nil => rw [List.nil_append]
  | cons c piece induction =>
      have notHere := not_prefix_append_of_avoids ne_nil apart (List.cons_ne_nil c piece) rest
      rw [List.cons_append] at notHere
      rw [List.cons_append, List.infix_cons_iff, or_iff_right notHere]
      exact induction ((avoids_cons ..).mp apart).2

theorem infix_append_iff_left (text : Text) : mark <:+: text ++ piece ↔ mark <:+: text := by
  have reversed : mark.reverse <:+: piece.reverse ++ text.reverse ↔
      mark.reverse <:+: text.reverse :=
    infix_append_iff (by simpa using ne_nil)
      (fun c member => by simpa using apart c (List.mem_reverse.mp member)) text.reverse
  rwa [← List.reverse_append, List.reverse_infix, List.reverse_infix] at reversed

end Infix

/-! ## Native letters -/

/-- A letter that is the lower case of ASCII letters only: neither `i`, which the capital `i` with a
dot becomes, nor `k`, which the sign of the kelvin becomes. -/
def isNative (c : Char) : Bool :=
  c.isLower && c != 'i' && c != 'k'

theorem lt_of_isNative {c : Char} (native : isNative c) : c.toNat < 0x80 := by
  unfold isNative Char.isLower at native
  simp only [Bool.and_eq_true, decide_eq_true_eq, UInt32.le_iff_toNat_le] at native
  have greatest : c.toNat ≤ 122 := native.1.1.2
  omega

theorem not_isNative {c : Char} (beyond : 0x80 ≤ c.toNat) : isNative c = false := by
  rw [Bool.eq_false_iff]
  intro native
  have := lt_of_isNative native
  omega

theorem isBlank_of_isNative {c : Char} (native : isNative c) : isBlank c = false := by
  rw [Bool.eq_false_iff]
  intro blank
  have plain := of_isBlank (isNative · = false) (by decide) blank
  rw [native] at plain
  contradiction

/-- All runs of the case mapping lead beyond ASCII, but for the sign of the kelvin. -/
theorem beyond_of_mem_lowerRuns : ∀ run ∈ Case.lowerRuns,
    0x80 ≤ run.first + run.shift ∨ run.first = run.last ∧ run.first + run.shift = 0x6B := by
  decide +kernel

theorem isNative_ofNat {code : Nat} (beyond : 0x80 ≤ code) :
    isNative (Char.ofNat code) = false := by
  by_cases valid : code.isValidChar
  · rw [Char.ofNat, dif_pos valid]
    exact not_isNative beyond
  · rw [Char.ofNat, dif_neg valid]
    rfl

theorem Case.Run.counterpart?_eq_some_iff {run : Run} {code target : Nat} :
    run.counterpart? code = some target ↔
      (run.first ≤ code ∧ code ≤ run.last ∧ (code - run.first) % run.stride = 0) ∧
        (code + run.shift).toNat = target := by
  rw [counterpart?, Option.ite_none_right_eq_some, Option.some_inj]

theorem isNative_counterpart {c : Char} (beyond : 0x80 ≤ c.toNat) :
    isNative (Case.counterpart Case.lowerRuns c) = false := by
  rw [Case.counterpart]
  split
  · rename_i code found
    obtain ⟨run, member, counterpart⟩ := List.exists_of_findSome?_eq_some found
    obtain ⟨inRun, rfl⟩ := Case.Run.counterpart?_eq_some_iff.mp counterpart
    rcases beyond_of_mem_lowerRuns run member with far | ⟨single, kelvin⟩
    · exact isNative_ofNat (by omega)
    · have same : (c.toNat + run.shift).toNat = 0x6B := by omega
      rw [same]
      decide
  · exact not_isNative beyond

theorem isNative_of_mem_lowerChar {c d : Char} (beyond : 0x80 ≤ c.toNat)
    (member : d ∈ lowerChar c) : isNative d = false := by
  rw [lowerChar, if_neg (by omega)] at member
  split at member
  · rcases List.mem_pair.mp member with rfl | rfl
    all_goals decide
  · rw [List.mem_singleton.mp member]
    exact isNative_counterpart beyond

theorem lowerChar_ne_nil (c : Char) : lowerChar c ≠ [] := by
  rw [lowerChar]
  split
  · exact List.cons_ne_nil _ _
  · split <;> exact List.cons_ne_nil _ _

/-- The lower case of a text starts with that of its first character: for an ASCII character this is
its ASCII lower case, and beyond ASCII it is something without native letters. -/
theorem lowerAfter_cons_cases (before : Text) (c : Char) (rest : Text) :
    c.toNat < 0x80 ∧ lowerAfter before (c :: rest) = c.toLower :: lowerAfter (c :: before) rest ∨
      0x80 ≤ c.toNat ∧ ∃ piece ≠ [], (∀ d ∈ piece, isNative d = false) ∧
        lowerAfter before (c :: rest) = piece ++ lowerAfter (c :: before) rest := by
  rw [lowerAfter]
  by_cases ascii : c.toNat < 0x80
  · have notSigma : c ≠ '\u03A3' := by
      rintro rfl
      exact absurd ascii (by decide)
    rw [if_neg notSigma, lowerChar, if_pos ascii]
    exact .inl ⟨ascii, rfl⟩
  · have beyond : 0x80 ≤ c.toNat := Nat.le_of_not_lt ascii
    refine .inr ⟨beyond, _, ?_, ?_, rfl⟩
    · split
      · exact List.cons_ne_nil _ _
      · exact lowerChar_ne_nil c
    · intro d member
      split at member
      · rw [List.mem_singleton.mp member]
        split <;> decide
      · exact isNative_of_mem_lowerChar beyond member

/-! ## Native words -/

section Native

variable {mark : Text} (native : ∀ d ∈ mark, isNative d)

include native

theorem avoids_of_native {piece : Text} (foreign : ∀ c ∈ piece, isNative c = false) :
    Avoids mark piece := by
  intro c member inMark
  have plain := foreign c member
  rw [native c inMark] at plain
  contradiction

theorem avoids_toLower_of_beyond {c : Char} (beyond : 0x80 ≤ c.toNat) :
    Avoids mark [c.toLower] := by
  refine avoids_of_native native fun d member => ?_
  have same := toNat_toLower c
  rw [if_neg (by omega)] at same
  rw [List.mem_singleton.mp member]
  exact not_isNative (by omega)

theorem prefix_lowerAfter_iff (before text : Text) :
    mark <+: lowerAfter before text ↔ mark <+: asciiLower text := by
  induction text generalizing mark before with
  | nil => rfl
  | cons c rest induction =>
      by_cases empty : mark = []
      · simp [empty]
      · rw [asciiLower, List.map_cons]
        rcases lowerAfter_cons_cases before c rest with
          ⟨-, split⟩ | ⟨beyond, piece, piece_ne_nil, foreign, split⟩
        · obtain ⟨first, others, rfl⟩ := List.exists_cons_of_ne_nil empty
          rw [split, List.cons_prefix_cons, List.cons_prefix_cons,
            induction (List.forall_mem_cons.mp native).2, asciiLower]
        · rw [split]
          exact iff_of_false
            (not_prefix_append_of_avoids empty (avoids_of_native native foreign) piece_ne_nil _)
            (not_prefix_append_of_avoids empty (avoids_toLower_of_beyond native beyond)
              (List.cons_ne_nil _ _) _)

variable (ne_nil : mark ≠ [])

include ne_nil

theorem infix_lowerAfter_iff (before text : Text) :
    mark <:+: lowerAfter before text ↔ mark <:+: asciiLower text := by
  induction text generalizing before with
  | nil => rfl
  | cons c rest induction =>
      have starts := prefix_lowerAfter_iff native before (c :: rest)
      rcases lowerAfter_cons_cases before c rest with ⟨-, split⟩ | ⟨beyond, piece, -, foreign, split⟩
      · rw [split] at starts ⊢
        rw [List.infix_cons_iff, starts, induction, asciiLower, asciiLower, List.map_cons,
          List.infix_cons_iff]
      · rw [split, infix_append_iff ne_nil (avoids_of_native native foreign), induction, asciiLower,
          asciiLower, List.map_cons, ← List.singleton_append,
          infix_append_iff ne_nil (avoids_toLower_of_beyond native beyond)]

/-- Blanks around a text hold no native word. -/
theorem infix_asciiLower_trim_iff (text : Text) :
    mark <:+: asciiLower (trim text) ↔ mark <:+: asciiLower text := by
  have apart {blanks : Text} (blank : Blank blanks) : Avoids mark (asciiLower blanks) := by
    refine avoids_of_native native fun d member => ?_
    obtain ⟨c, inBlanks, rfl⟩ := List.mem_map.mp member
    rw [Bool.eq_false_iff]
    intro isNative
    have := isBlank_of_isNative isNative
    rw [isBlank_toLower, blank c inBlanks] at this
    contradiction
  obtain ⟨before, after, beforeBlank, afterBlank, split⟩ := exists_blanks_trim text
  conv_rhs => rw [split, asciiLower, List.map_append, List.map_append, List.append_assoc]
  exact ((infix_append_iff ne_nil (apart beforeBlank) _).trans
    (infix_append_iff_left ne_nil (apart afterBlank) _)).symm

/-- A native word occurs in the lower case of a text exactly if it occurs in the ASCII lower case of
the trimmed text. -/
theorem includes_lower (text : Text) :
    includes (lower text) mark = includes (asciiLower (trim text)) mark := by
  rw [Bool.eq_iff_iff, includes_iff, includes_iff, infix_asciiLower_trim_iff native ne_nil]
  exact infix_lowerAfter_iff native ne_nil [] text

end Native

end ProxyHistory.Text
