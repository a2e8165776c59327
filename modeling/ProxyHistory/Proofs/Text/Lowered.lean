import ProxyHistory.Proofs.Text.Lowering

/-!
# Texts in lower case

Putting a text in lower case a second time changes nothing. No character of a text in lower case is
the source of a case mapping, and a text of such characters is its own lower case, whichever letters
stand next to each other.
-/

namespace ProxyHistory.Text

/-! ## Counterparts -/

namespace Case.Run

/-- The least counterpart of the run. -/
def low (run : Run) : Nat :=
  (run.first + run.shift).toNat

/-- The greatest counterpart of the run. -/
def high (run : Run) : Nat :=
  (run.last + run.shift).toNat

/-- Whether the counterparts of the run lie below the other run, above it, or in its gaps. All pairs
of runs are checked, so this is written with the comparisons that the kernel computes at once. -/
def leadsPast (run other : Run) : Bool :=
  Nat.blt run.high other.first || (Nat.blt other.last run.low ||
    (Nat.beq other.stride 2 && ((Nat.beq run.stride 2 || Nat.beq run.first run.last) &&
      !Nat.beq (run.low % 2) (other.first % 2))))

theorem leadsPast_iff {run other : Run} :
    run.leadsPast other ↔ run.high < other.first ∨ other.last < run.low ∨
      other.stride = 2 ∧ (run.stride = 2 ∨ run.first = run.last) ∧
        run.low % 2 ≠ other.first % 2 := by
  simp only [leadsPast, Bool.or_eq_true, Bool.and_eq_true, Bool.not_eq_true', Nat.blt_eq,
    Nat.beq_eq, ← Bool.not_eq_true, ne_eq]

/-- Where the counterparts of a run lead past another one, none of them has a counterpart there. -/
theorem counterpart?_of_leadsPast {run other : Run} (natural : 0 ≤ run.first + run.shift)
    (past : run.leadsPast other) {code target : Nat}
    (found : run.counterpart? code = some target) : other.counterpart? target = none := by
  rw [leadsPast_iff, low, high] at past
  obtain ⟨⟨atLeast, atMost, onStride⟩, same⟩ := counterpart?_eq_some_iff.mp found
  rw [counterpart?, if_neg]
  rintro ⟨atLeastOther, atMostOther, onStrideOther⟩
  rcases past with below | above | ⟨strideOther, alike, differ⟩
  · omega
  · omega
  · rw [strideOther] at onStrideOther
    rcases alike with stride | single
    · rw [stride] at onStride
      omega
    · omega

end Case.Run

/-- No run of the case mapping leads to a character that has a lower case itself. -/
theorem leadsPast_lowerRuns :
    Case.lowerRuns.all (fun run => Case.lowerRuns.all run.leadsPast) = true := by
  decide +kernel

/-- Nor does one lead to the capital `i` with a dot, which belongs to no run. -/
theorem dotted_of_mem_lowerRuns : ∀ run ∈ Case.lowerRuns,
    run.last + run.shift < 0x130 ∨ 0x130 < run.first + run.shift := by
  decide +kernel

theorem not_found_of_counterpart? {run : Case.Run} (member : run ∈ Case.lowerRuns)
    {code target : Nat} (found : run.counterpart? code = some target) :
    Case.lowerRuns.findSome? (·.counterpart? target) = none := by
  rw [List.findSome?_eq_none_iff]
  intro other otherMember
  have past := List.all_eq_true.mp (List.all_eq_true.mp leadsPast_lowerRuns run member)
    other otherMember
  have beyond := beyond_of_mem_lowerRuns run member
  exact Case.Run.counterpart?_of_leadsPast (by omega) past found

theorem counterpart_of_not_found {c : Char}
    (notFound : Case.lowerRuns.findSome? (·.counterpart? c.toNat) = none) :
    Case.counterpart Case.lowerRuns c = c := by
  rw [Case.counterpart, notFound]

theorem counterpart_of_found {c : Char} {target : Nat}
    (found : Case.lowerRuns.findSome? (·.counterpart? c.toNat) = some target) :
    Case.counterpart Case.lowerRuns c = Char.ofNat target := by
  rw [Case.counterpart, found]

/-! ## Characters in lower case -/

/-- The character is its own lower case wherever it stands. -/
structure IsLowered (c : Char) : Prop where
  not_sigma : c ≠ '\u03A3'
  lowerChar_eq : lowerChar c = [c]

instance (c : Char) : Decidable (IsLowered c) :=
  decidable_of_iff (c ≠ '\u03A3' ∧ lowerChar c = [c])
    ⟨fun ⟨notSigma, same⟩ => ⟨notSigma, same⟩, fun lowered => ⟨lowered.1, lowered.2⟩⟩

theorem isLowered_toLower {c : Char} (ascii : c.toNat < 0x80) : IsLowered c.toLower := by
  have code := toNat_toLower c
  have small : c.toLower.toNat < 0x80 := by
    rw [code]
    split <;> omega
  refine ⟨?_, ?_⟩
  · intro same
    rw [same] at small
    exact absurd small (by decide)
  · have again : c.toLower.toLower = c.toLower := by
      rw [← Char.toNat_inj, toNat_toLower c.toLower, if_neg]
      rw [code]
      split <;> omega
    rw [lowerChar, if_pos small, again]

theorem isLowered_of_not_found {c : Char} (beyond : 0x80 ≤ c.toNat) (notDotted : c ≠ '\u0130')
    (notFound : Case.lowerRuns.findSome? (·.counterpart? c.toNat) = none) : IsLowered c where
  not_sigma := by
    rintro rfl
    exact absurd notFound (by decide +kernel)
  lowerChar_eq := by
    rw [lowerChar, if_neg (by omega), if_neg notDotted, counterpart_of_not_found notFound]

theorem isLowered_counterpart {c : Char} (beyond : 0x80 ≤ c.toNat) (notDotted : c ≠ '\u0130') :
    IsLowered (Case.counterpart Case.lowerRuns c) := by
  cases found : Case.lowerRuns.findSome? (·.counterpart? c.toNat) with
  | none =>
      rw [counterpart_of_not_found found]
      exact isLowered_of_not_found beyond notDotted found
  | some target =>
      obtain ⟨run, member, counterpart⟩ := List.exists_of_findSome?_eq_some found
      have inRun := Case.Run.counterpart?_eq_some_iff.mp counterpart
      rw [counterpart_of_found found]
      -- A code that is none of a character stands for the null character.
      by_cases valid : target.isValidChar
      · have code : (Char.ofNat target).toNat = target := by
          rw [Char.ofNat, dif_pos valid]
          rfl
        rcases beyond_of_mem_lowerRuns run member with far | ⟨single, kelvin⟩
        · refine isLowered_of_not_found (by omega) ?_ ?_
          · intro dotted
            rw [dotted] at code
            have notDottedRun := dotted_of_mem_lowerRuns run member
            change 0x130 = target at code
            omega
          · rw [code]
            exact not_found_of_counterpart? member counterpart
        -- The sign of the kelvin is the only one that leads back into ASCII.
        · have same : target = 0x6B := by omega
          rw [same]
          decide
      · rw [Char.ofNat, dif_neg valid]
        decide

theorem isLowered_of_mem_lowerChar {c d : Char} (member : d ∈ lowerChar c) : IsLowered d := by
  rw [lowerChar] at member
  split at member
  · rename_i ascii
    rw [List.mem_singleton.mp member]
    exact isLowered_toLower ascii
  · rename_i notAscii
    split at member
    · rcases List.mem_pair.mp member with rfl | rfl
      · decide
      · decide +kernel
    · rename_i notDotted
      rw [List.mem_singleton.mp member]
      exact isLowered_counterpart (Nat.le_of_not_lt notAscii) notDotted

/-! ## Texts in lower case -/

theorem isLowered_of_mem_lowerAfter {d : Char} {before text : Text}
    (member : d ∈ lowerAfter before text) : IsLowered d := by
  induction text generalizing before with
  | nil => exact absurd member List.not_mem_nil
  | cons c rest induction =>
      rw [lowerAfter, List.mem_append] at member
      rcases member with here | later
      · split at here
        · rw [List.mem_singleton.mp here]
          split <;> decide +kernel
        · exact isLowered_of_mem_lowerChar here
      · exact induction later

/-- A text of such characters is its own lower case. -/
theorem lowerAfter_of_isLowered {text : Text} (lowered : ∀ c ∈ text, IsLowered c)
    (before : Text) : lowerAfter before text = text := by
  induction text generalizing before with
  | nil => rfl
  | cons c rest induction =>
      obtain ⟨first, others⟩ := List.forall_mem_cons.mp lowered
      rw [lowerAfter, if_neg first.not_sigma, first.lowerChar_eq, induction others]
      rfl

@[simp]
theorem lower_lower (text : Text) : lower (lower text) = lower text :=
  lowerAfter_of_isLowered (fun _ => isLowered_of_mem_lowerAfter) []

/-- The form of a small sigma stays, also where the capital one would have the other form. -/
example : lower "ΟΔΟΣ".toList = "οδος".toList ∧ lower "οδοσ".toList = "οδοσ".toList := by
  decide +kernel

end ProxyHistory.Text
