import ProxyHistory.Proofs.Text.Utf8

/-!
# The order of texts

Texts are compared by code points from the first character on. This is also the order of their
bytes: a greater code point has a greater first byte or, behind equal bytes, a greater later one.
-/

namespace ProxyHistory.Text

theorem byte_cons_lt {first second : Nat} {rest other : List UInt8} (bounded : second < 0x100)
    (atMost : first ≤ second) (tied : first = second → rest < other) :
    byte first :: rest < byte second :: other := by
  rw [List.cons_lt_cons_iff]
  rcases Nat.lt_or_eq_of_le atMost with less | rfl
  · left
    rw [UInt8.lt_iff_toNat_lt, toNat_byte (by omega), toNat_byte bounded]
    exact less
  · exact .inr ⟨rfl, tied rfl⟩

theorem byte_cons_lt_of_lt {first second : Nat} (bounded : second < 0x100)
    (less : first < second) (rest other : List UInt8) :
    byte first :: rest < byte second :: other :=
  byte_cons_lt bounded (Nat.le_of_lt less) fun same => absurd same (Nat.ne_of_lt less)

/-- The bytes of the lesser of two characters come first, whatever follows. -/
theorem encodeChar_append_lt {c d : Char} (less : c < d) (rest other : List UInt8) :
    encodeChar c ++ rest < encodeChar d ++ other := by
  have codes : c.toNat < d.toNat := less
  have bounds := toNat_bounds d
  rw [encodeChar, encodeChar]
  generalize c.toNat = code at codes
  generalize d.toNat = target at codes bounds
  -- A character with fewer bytes has a lesser first byte; with as many, the bytes are its digits.
  by_cases one : target < 0x80
  · rw [if_pos one, if_pos (by omega)]
    exact byte_cons_lt_of_lt (by omega) codes rest other
  · rw [if_neg one]
    by_cases two : target < 0x800
    · rw [if_pos two]
      split
      · exact byte_cons_lt_of_lt (by omega) (by omega) _ _
      · rw [if_pos (by omega)]
        refine byte_cons_lt (by omega) (by omega) fun same => ?_
        exact byte_cons_lt_of_lt (by omega) (by omega) _ _
    · rw [if_neg two]
      by_cases three : target < 0x10000
      · rw [if_pos three]
        split
        · exact byte_cons_lt_of_lt (by omega) (by omega) _ _
        · split
          · exact byte_cons_lt_of_lt (by omega) (by omega) _ _
          · rw [if_pos (by omega)]
            refine byte_cons_lt (by omega) (by omega) fun same => ?_
            refine byte_cons_lt (by omega) (by omega) fun sameNext => ?_
            exact byte_cons_lt_of_lt (by omega) (by omega) _ _
      · rw [if_neg three]
        split
        · exact byte_cons_lt_of_lt (by omega) (by omega) _ _
        · split
          · exact byte_cons_lt_of_lt (by omega) (by omega) _ _
          · split
            · exact byte_cons_lt_of_lt (by omega) (by omega) _ _
            · refine byte_cons_lt (by omega) (by omega) fun same => ?_
              refine byte_cons_lt (by omega) (by omega) fun sameNext => ?_
              refine byte_cons_lt (by omega) (by omega) fun sameThird => ?_
              exact byte_cons_lt_of_lt (by omega) (by omega) _ _

theorem encode_lt_encode {first second : Text} (less : first < second) :
    encode first < encode second := by
  induction first generalizing second with
  | nil =>
      cases second with
      | nil => exact absurd less (List.not_lt_nil [])
      | cons d other =>
          obtain ⟨lead, more, bytes⟩ := List.exists_cons_of_ne_nil (encodeChar_ne_nil d)
          rw [encode_cons, bytes]
          exact List.nil_lt_cons lead _
  | cons c rest induction =>
      cases second with
      | nil => exact absurd less (List.not_lt_nil (c :: rest))
      | cons d other =>
          rw [encode_cons, encode_cons]
          rcases List.cons_lt_cons_iff.mp less with lesser | ⟨rfl, later⟩
          · exact encodeChar_append_lt lesser _ _
          · exact List.append_left_lt (induction later)

theorem lt_or_lt_of_ne {first second : Text} (different : first ≠ second) :
    first < second ∨ second < first := by
  by_cases less : first < second
  · exact .inl less
  · rcases List.le_iff_lt_or_eq.mp (List.not_lt.mp less) with greater | same
    · exact .inr greater
    · exact absurd same.symm different

/-- The order of code points is the order of bytes. -/
theorem encode_lt_iff {first second : Text} : encode first < encode second ↔ first < second := by
  refine ⟨fun lessBytes => ?_, encode_lt_encode⟩
  by_cases same : first = second
  · rw [same] at lessBytes
    exact absurd lessBytes (List.lt_irrefl _)
  · rcases lt_or_lt_of_ne same with less | greater
    · exact less
    · exact absurd lessBytes (List.lt_asymm (encode_lt_encode greater))

end ProxyHistory.Text
