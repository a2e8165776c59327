import ProxyHistory.Text.Utf8

/-!
# Bytes of text

The bytes of a text are read back as the text, strictly and leniently. A decoder goes from the first
byte of a character to the next one by one step for the first byte and one for each byte after it.
-/

namespace ProxyHistory

/-! ## Gaps -/

namespace Text

@[simp]
theorem raw_nil : raw [] = [] := rfl

@[simp]
theorem raw_cons (c : Char) (rest : Text) : raw (c :: rest) = some c :: rest.raw := rfl

@[simp]
theorem raw_append (first second : Text) : raw (first ++ second) = first.raw ++ second.raw :=
  List.map_append

@[simp]
theorem length_raw (text : Text) : text.raw.length = text.length :=
  List.length_map some

theorem none_not_mem_raw (text : Text) : none ∉ text.raw := by
  simp [raw]

@[simp]
theorem filterMap_raw (text : Text) : text.raw.filterMap id = text := by
  rw [raw, List.filterMap_map]
  exact List.filterMap_some

@[simp]
theorem lossy_raw (text : Text) : text.raw.lossy = text := by
  rw [RawText.lossy, raw, List.map_map]
  exact List.map_id text

end Text

namespace RawText

/-- A text is read where there are no gaps, and filling them changes nothing then. -/
theorem text?_eq (raw : RawText) : raw.text? = if none ∈ raw then none else some raw.lossy := by
  induction raw with
  | nil => rfl
  | cons c? rest induction =>
      rw [text?] at induction ⊢
      rw [List.mapM_cons, induction]
      cases c? with
      | none => simp
      | some c => by_cases gaps : none ∈ rest <;> simp [gaps, lossy]

theorem raw_filterMap {raw : RawText} (noGaps : none ∉ raw) : Text.raw (raw.filterMap id) = raw := by
  induction raw with
  | nil => rfl
  | cons c? rest induction =>
      rw [List.mem_cons, not_or] at noGaps
      cases c? with
      | none => exact absurd rfl noGaps.1
      | some c =>
          rw [List.filterMap_cons, id_eq, Text.raw_cons, induction noGaps.2]

@[simp]
theorem text?_raw (text : Text) : text.raw.text? = some text := by
  rw [text?_eq, if_neg text.none_not_mem_raw, Text.lossy_raw]

end RawText

namespace Text

/-! ## Bytes -/

theorem toNat_byte {value : Nat} (small : value < 0x100) : (byte value).toNat = value := by
  rw [byte, UInt8.toNat_ofNat']
  exact Nat.mod_eq_of_lt small

/-! ## First bytes -/

theorem lead?_one {code : Nat} (small : code < 0x80) :
    lead? (byte code) = some ⟨0, 0, 0, code⟩ := by
  rw [lead?, toNat_byte (by omega), if_pos small]

theorem lead?_two {bits : Nat} (least : 2 ≤ bits) (greatest : bits < 0x20) :
    lead? (byte (0xC0 + bits)) = some ⟨1, 0x80, 0xBF, bits⟩ := by
  rw [lead?, toNat_byte (by omega), if_neg (by omega), if_pos (by omega), Nat.add_sub_cancel_left]

/-- The first of two continuation bytes is bounded where the code would be too small or that of a
surrogate. -/
theorem lead?_three {bits : Nat} (small : bits < 0x10) :
    lead? (byte (0xE0 + bits)) =
      some ⟨2, if bits = 0 then 0xA0 else 0x80, if bits = 0xD then 0x9F else 0xBF, bits⟩ := by
  rw [lead?, toNat_byte (by omega), if_neg (by omega), if_neg (by omega)]
  by_cases zero : bits = 0
  · subst zero
    rfl
  · rw [if_neg (by omega), if_neg zero]
    by_cases surrogate : bits = 0xD
    · subst surrogate
      rfl
    · rw [if_neg (by omega), if_pos (by omega), if_neg surrogate, Nat.add_sub_cancel_left]

/-- The first of three continuation bytes is bounded where the code would be too small or too
large. -/
theorem lead?_four {bits : Nat} (small : bits < 5) :
    lead? (byte (0xF0 + bits)) =
      some ⟨3, if bits = 0 then 0x90 else 0x80, if bits = 4 then 0x8F else 0xBF, bits⟩ := by
  rw [lead?, toNat_byte (by omega), if_neg (by omega), if_neg (by omega), if_neg (by omega),
    if_neg (by omega), if_neg (by omega)]
  by_cases zero : bits = 0
  · subst zero
    rfl
  · rw [if_neg (by omega), if_neg zero]
    by_cases last : bits = 4
    · subst last
      rfl
    · rw [if_pos (by omega), if_neg last, Nat.add_sub_cancel_left]

/-! ## Steps -/

theorem decodeFrom_single {first : UInt8} {low high bits : Nat} (rest : List UInt8)
    (announces : lead? first = some ⟨0, low, high, bits⟩) :
    decodeFrom none (first :: rest) = some (Char.ofNat bits) :: decodeFrom none rest := by
  simp only [decodeFrom, announces]

theorem decodeFrom_first {first : UInt8} {more low high bits : Nat} (rest : List UInt8)
    (announces : lead? first = some ⟨more + 1, low, high, bits⟩) :
    decodeFrom none (first :: rest) = decodeFrom (some ⟨bits, more + 1, low, high⟩) rest := by
  simp only [decodeFrom, announces]

theorem decodeFrom_between {bits more low high value : Nat} (rest : List UInt8)
    (small : value < 0x40) (atLeast : low ≤ 0x80 + value) (atMost : 0x80 + value ≤ high) :
    decodeFrom (some ⟨bits, more + 2, low, high⟩) (byte (0x80 + value) :: rest) =
      decodeFrom (some ⟨bits * 0x40 + value, more + 1, 0x80, 0xBF⟩) rest := by
  have continuing : ¬ more + 2 ≤ 1 := by omega
  simp only [decodeFrom, toNat_byte (show 0x80 + value < 0x100 by omega), atLeast, atMost, and_self,
    if_true, continuing, if_false, Nat.add_sub_cancel_left, Nat.add_succ_sub_one]

theorem decodeFrom_last {bits low high value : Nat} (rest : List UInt8)
    (small : value < 0x40) (atLeast : low ≤ 0x80 + value) (atMost : 0x80 + value ≤ high) :
    decodeFrom (some ⟨bits, 1, low, high⟩) (byte (0x80 + value) :: rest) =
      some (Char.ofNat (bits * 0x40 + value)) :: decodeFrom none rest := by
  simp only [decodeFrom, toNat_byte (show 0x80 + value < 0x100 by omega), atLeast, atMost, and_self,
    if_true, Nat.le_refl, Nat.add_sub_cancel_left]

/-! ## Characters and texts -/

theorem toNat_bounds (c : Char) : c.toNat < 0xD800 ∨ (0xDFFF < c.toNat ∧ c.toNat < 0x110000) :=
  c.valid

theorem decodeFrom_encodeChar (c : Char) (rest : List UInt8) :
    decodeFrom none (encodeChar c ++ rest) = some c :: decodeFrom none rest := by
  have bounds := toNat_bounds c
  have same := Char.ofNat_toNat c
  rw [encodeChar]
  generalize c.toNat = code at bounds same
  by_cases one : code < 0x80
  · rw [if_pos one, List.singleton_append, decodeFrom_single rest (lead?_one one), same]
  · rw [if_neg one]
    by_cases two : code < 0x800
    · have whole : code / 0x40 * 0x40 + code % 0x40 = code := by omega
      rw [if_pos two, List.cons_append, List.singleton_append,
        decodeFrom_first _ (lead?_two (by omega) (by omega)),
        decodeFrom_last rest (by omega) (by omega) (by omega), whole, same]
    · rw [if_neg two]
      by_cases three : code < 0x10000
      · have whole : (code / 0x1000 * 0x40 + code / 0x40 % 0x40) * 0x40 + code % 0x40 = code := by
          omega
        have atLeast : (if code / 0x1000 = 0 then 0xA0 else 0x80) ≤ 0x80 + code / 0x40 % 0x40 := by
          split <;> omega
        have atMost : 0x80 + code / 0x40 % 0x40 ≤ if code / 0x1000 = 0xD then 0x9F else 0xBF := by
          split <;> omega
        rw [if_pos three, List.cons_append, List.cons_append, List.singleton_append,
          decodeFrom_first _ (lead?_three (by omega)),
          decodeFrom_between _ (by omega) atLeast atMost,
          decodeFrom_last rest (by omega) (by omega) (by omega), whole, same]
      · have whole : ((code / 0x40000 * 0x40 + code / 0x1000 % 0x40) * 0x40 + code / 0x40 % 0x40) *
            0x40 + code % 0x40 = code := by
          omega
        have atLeast : (if code / 0x40000 = 0 then 0x90 else 0x80) ≤
            0x80 + code / 0x1000 % 0x40 := by
          split <;> omega
        have atMost : 0x80 + code / 0x1000 % 0x40 ≤
            if code / 0x40000 = 4 then 0x8F else 0xBF := by
          split <;> omega
        rw [if_neg three, List.cons_append, List.cons_append, List.cons_append,
          List.singleton_append, decodeFrom_first _ (lead?_four (by omega)),
          decodeFrom_between _ (by omega) atLeast atMost,
          decodeFrom_between _ (by omega) (by omega) (by omega),
          decodeFrom_last rest (by omega) (by omega) (by omega), whole, same]

theorem encode_cons (c : Char) (text : Text) : encode (c :: text) = encodeChar c ++ encode text :=
  List.flatMap_cons

theorem encode_append (first second : Text) :
    encode (first ++ second) = encode first ++ encode second :=
  List.flatMap_append

@[simp]
theorem decode_encode (text : Text) : decode (encode text) = text.raw := by
  rw [decode]
  induction text with
  | nil => rfl
  | cons c rest induction =>
      rw [encode_cons, decodeFrom_encodeChar, induction, raw_cons]

@[simp]
theorem decode?_encode (text : Text) : decode? (encode text) = some text := by
  rw [decode?, decode_encode, RawText.text?_raw]

@[simp]
theorem decodeLossy_encode (text : Text) : decodeLossy (encode text) = text := by
  rw [decodeLossy, decode_encode, lossy_raw]

/-! ## Lengths -/

theorem byteLength_eq (text : Text) : byteLength text = (encode text).length := by
  have counted (bytes : Nat) :
      text.foldl (fun length c => length + (encodeChar c).length) bytes =
        bytes + (encode text).length := by
    induction text generalizing bytes with
    | nil => rfl
    | cons c rest induction =>
        rw [List.foldl_cons, induction, encode_cons, List.length_append, Nat.add_assoc]
  rw [byteLength, counted, Nat.zero_add]

/-- There are at least as many signs as there are parts that are written. -/
theorem length_le_flatMap {α β : Type} {write : α → List β} (written : ∀ part, write part ≠ [])
    (parts : List α) : parts.length ≤ (parts.flatMap write).length := by
  induction parts with
  | nil => exact Nat.le_refl 0
  | cons part parts induction =>
      have first := List.length_pos_iff.mpr (written part)
      rw [List.flatMap_cons, List.length_append, List.length_cons]
      omega

theorem encodeChar_ne_nil (c : Char) : encodeChar c ≠ [] := by
  simp only [encodeChar]
  repeat' split
  all_goals exact List.cons_ne_nil _ _

theorem length_le_byteLength (text : Text) : text.length ≤ byteLength text := by
  rw [byteLength_eq]
  exact length_le_flatMap encodeChar_ne_nil text

end Text

end ProxyHistory
