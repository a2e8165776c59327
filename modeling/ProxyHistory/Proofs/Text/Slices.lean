import Mathlib.Data.List.Infix
import Mathlib.Order.Monotone.Basic
import ProxyHistory.Proofs.Text.Letters
import ProxyHistory.Proofs.Text.Utf8

/-!
# Slices by bytes

A slice of a text between two byte offsets exists only if these are in order, within the text, and
on boundaries of characters. Positions that count characters move to such offsets in order.
-/

namespace ProxyHistory.Text

/-! ## Lengths in bytes -/

@[simp]
theorem byteLength_nil : byteLength [] = 0 := rfl

@[simp]
theorem byteLength_append (first second : Text) :
    byteLength (first ++ second) = byteLength first + byteLength second := by
  rw [byteLength_eq, encode_append, List.length_append, ← byteLength_eq, ← byteLength_eq]

theorem eq_nil_of_byteLength_eq_zero {text : Text} (empty : byteLength text = 0) : text = [] :=
  List.eq_nil_of_length_eq_zero (Nat.le_zero.mp (empty ▸ length_le_byteLength text))

theorem length_encodeChar_of_lt {c : Char} (ascii : c.toNat < 0x80) :
    (encodeChar c).length = 1 := by
  simp only [encodeChar, if_pos ascii, List.length_singleton]

theorem length_encodeChar_toLower (c : Char) :
    (encodeChar c.toLower).length = (encodeChar c).length := by
  by_cases isUpper : 65 ≤ c.toNat ∧ c.toNat ≤ 90
  · have lowered : c.toLower.toNat = c.toNat + 32 := by rw [toNat_toLower, if_pos isUpper]
    rw [length_encodeChar_of_lt (c := c.toLower) (by omega), length_encodeChar_of_lt (by omega)]
  · have same : c.toLower = c := by rw [← Char.toNat_inj, toNat_toLower, if_neg isUpper]
    rw [same]

theorem byteLength_eq_of_same {first second : Text}
    (same : sameIgnoringCase first second = true) : byteLength first = byteLength second := by
  have lowered (text : Text) : byteLength (asciiLower text) = byteLength text := by
    induction text with
    | nil => rfl
    | cons c rest induction =>
        rw [byteLength_eq, byteLength_eq] at induction ⊢
        rw [asciiLower, List.map_cons, encode_cons, encode_cons, List.length_append,
          List.length_append, length_encodeChar_toLower, ← asciiLower, induction]
  rw [← lowered first, sameIgnoringCase_iff.mp same, lowered]

/-- Of two front parts of a text the shorter one is a front part of the other. -/
theorem exists_append_of_byteLength_le {front back longer rest : Text}
    (same : front ++ back = longer ++ rest) (le : byteLength front ≤ byteLength longer) :
    ∃ middle, longer = front ++ middle ∧ back = middle ++ rest := by
  rcases List.append_eq_append_iff.mp same with ⟨middle, longer_eq, back_eq⟩ |
    ⟨middle, front_eq, rest_eq⟩
  · exact ⟨middle, longer_eq, back_eq⟩
  · rw [front_eq, byteLength_append] at le
    obtain rfl : middle = [] := eq_nil_of_byteLength_eq_zero (by omega)
    exact ⟨[], by simpa using front_eq.symm, by simpa using rest_eq.symm⟩

/-- A text is parted in only one way at a byte offset. -/
theorem eq_of_byteLength_eq {front back other rest : Text} (same : front ++ back = other ++ rest)
    (length_eq : byteLength front = byteLength other) : front = other ∧ back = rest := by
  obtain ⟨middle, rfl, rfl⟩ := exists_append_of_byteLength_le same length_eq.le
  rw [byteLength_append] at length_eq
  obtain rfl : middle = [] := eq_nil_of_byteLength_eq_zero (by omega)
  exact ⟨(List.append_nil front).symm, rfl⟩

/-! ## Slices -/

/-- A byte offset at which a character of the text starts, or the text ends. -/
def IsBoundary (text : Text) (offset : Nat) : Prop :=
  ∃ front ∈ text.inits, byteLength front = offset

instance (text : Text) (offset : Nat) : Decidable (IsBoundary text offset) :=
  inferInstanceAs (Decidable (∃ front ∈ text.inits, byteLength front = offset))

theorem isBoundary_iff {text : Text} {offset : Nat} :
    IsBoundary text offset ↔ ∃ front back, text = front ++ back ∧ byteLength front = offset := by
  constructor
  · rintro ⟨front, member, length_eq⟩
    obtain ⟨back, rfl⟩ := (List.mem_inits _ _).mp member
    exact ⟨front, back, rfl, length_eq⟩
  · rintro ⟨front, back, rfl, length_eq⟩
    exact ⟨front, (List.mem_inits _ _).mpr (List.prefix_append _ _), length_eq⟩

/-- Two byte offsets that a text can be sliced at. -/
structure InBounds (text : Text) (start stop : Nat) : Prop where
  ordered : start ≤ stop
  within : stop ≤ byteLength text
  start_boundary : IsBoundary text start
  stop_boundary : IsBoundary text stop

instance (text : Text) (start stop : Nat) : Decidable (InBounds text start stop) :=
  decidable_of_iff
    (start ≤ stop ∧ stop ≤ byteLength text ∧ IsBoundary text start ∧ IsBoundary text stop)
    ⟨fun ⟨ordered, within, start_boundary, stop_boundary⟩ =>
      ⟨ordered, within, start_boundary, stop_boundary⟩,
      fun ⟨ordered, within, start_boundary, stop_boundary⟩ =>
        ⟨ordered, within, start_boundary, stop_boundary⟩⟩

/-- The characters of the bytes from one offset up to another, if the text can be sliced there. -/
def slice? (text : Text) (start stop : Nat) : Option Text :=
  if InBounds text start stop then decode? (((encode text).take stop).drop start) else none

theorem inBounds_iff {text : Text} {start stop : Nat} :
    InBounds text start stop ↔ ∃ front part back, text = front ++ (part ++ back) ∧
      byteLength front = start ∧ byteLength front + byteLength part = stop := by
  constructor
  · rintro ⟨ordered, -, start_boundary, stop_boundary⟩
    obtain ⟨front, rest, rfl, rfl⟩ := isBoundary_iff.mp start_boundary
    obtain ⟨longer, back, same, rfl⟩ := isBoundary_iff.mp stop_boundary
    obtain ⟨part, rfl, rfl⟩ := exists_append_of_byteLength_le same ordered
    exact ⟨front, part, back, rfl, rfl, (byteLength_append front part).symm⟩
  · rintro ⟨front, part, back, rfl, rfl, rfl⟩
    refine ⟨Nat.le_add_right _ _, ?_, isBoundary_iff.mpr ⟨front, _, rfl, rfl⟩,
      isBoundary_iff.mpr ⟨front ++ part, back, by simp, byteLength_append front part⟩⟩
    rw [byteLength_append, byteLength_append]
    omega

theorem slice?_append_append (front part back : Text) :
    slice? (front ++ (part ++ back)) (byteLength front) (byteLength front + byteLength part) =
      some part := by
  rw [slice?, if_pos (inBounds_iff.mpr ⟨front, part, back, rfl, rfl, rfl⟩), encode_append,
    encode_append, byteLength_eq, byteLength_eq, List.take_length_add_append, List.take_left,
    List.drop_left, decode?_encode]

theorem slice?_eq_some_iff {text part : Text} {start stop : Nat} :
    slice? text start stop = some part ↔ ∃ front back, text = front ++ (part ++ back) ∧
      byteLength front = start ∧ byteLength front + byteLength part = stop := by
  constructor
  · intro found
    have bounds : InBounds text start stop := by
      by_contra outside
      rw [slice?, if_neg outside] at found
      contradiction
    obtain ⟨front, other, back, rfl, rfl, rfl⟩ := inBounds_iff.mp bounds
    rw [slice?_append_append] at found
    obtain rfl := Option.some.inj found
    exact ⟨front, back, rfl, rfl, rfl⟩
  · rintro ⟨front, back, rfl, rfl, rfl⟩
    exact slice?_append_append front part back

/-- A slice exists just if both of its ends are boundaries of the text, in their order. -/
theorem isSome_slice?_iff {text : Text} {start stop : Nat} :
    (slice? text start stop).isSome ↔ InBounds text start stop := by
  rw [inBounds_iff, Option.isSome_iff_exists]
  constructor
  · rintro ⟨part, found⟩
    obtain ⟨front, back, split⟩ := slice?_eq_some_iff.mp found
    exact ⟨front, part, back, split⟩
  · rintro ⟨front, part, back, split⟩
    exact ⟨part, slice?_eq_some_iff.mpr ⟨front, back, split⟩⟩

/-- No slice starts inside a character. -/
example : slice? ['é', 'a'] 1 3 = none ∧ slice? ['é', 'a'] 2 3 = some ['a'] := by decide

theorem slice?_behind_eq_some_iff {front rest part : Text} {stop : Nat} :
    slice? (front ++ rest) (byteLength front) stop = some part ↔
      ∃ back, rest = part ++ back ∧ byteLength front + byteLength part = stop := by
  rw [slice?_eq_some_iff]
  constructor
  · rintro ⟨other, back, same, start_eq, stop_eq⟩
    obtain ⟨rfl, rfl⟩ := eq_of_byteLength_eq same start_eq.symm
    exact ⟨back, rfl, stop_eq⟩
  · rintro ⟨back, rfl, stop_eq⟩
    exact ⟨front, back, rfl, rfl, stop_eq⟩

/-! ## Positions -/

/-- The byte offset of the character at a position of the text. -/
def offsetOf (text : Text) (position : Nat) : Nat :=
  byteLength (text.take position)

theorem offsetOf_length (text : Text) : offsetOf text text.length = byteLength text := by
  rw [offsetOf, List.take_length]

theorem offsetOf_append (front rest : Text) (position : Nat) :
    offsetOf (front ++ rest) (front.length + position) =
      byteLength front + offsetOf rest position := by
  rw [offsetOf, List.take_length_add_append, byteLength_append, offsetOf]

theorem take_append_drop_take (text : Text) {start stop : Nat} (ordered : start ≤ stop) :
    text.take start ++ (text.take stop).drop start = text.take stop := by
  conv_rhs => rw [← List.take_append_drop start (text.take stop), List.take_take,
    Nat.min_eq_left ordered]

/-- A span of characters has as many bytes as lie between its ends. -/
theorem offsetOf_add_byteLength (text : Text) {start stop : Nat} (ordered : start ≤ stop) :
    offsetOf text start + byteLength ((text.take stop).drop start) = offsetOf text stop := by
  rw [offsetOf, ← byteLength_append, take_append_drop_take text ordered, offsetOf]

theorem monotone_offsetOf (text : Text) : Monotone (offsetOf text) := by
  intro start stop ordered
  rw [← offsetOf_add_byteLength text ordered]
  exact Nat.le_add_right _ _

theorem offsetOf_lt {text : Text} {start stop : Nat} (ordered : start < stop)
    (within : start < text.length) : offsetOf text start < offsetOf text stop := by
  have nonempty : 0 < ((text.take stop).drop start).length := by
    rw [List.length_drop, List.length_take]
    omega
  have := length_le_byteLength ((text.take stop).drop start)
  rw [← offsetOf_add_byteLength text ordered.le]
  omega

theorem offsetOf_le_iff {text : Text} {start stop : Nat} (within : stop < text.length) :
    offsetOf text start ≤ offsetOf text stop ↔ start ≤ stop := by
  constructor
  · intro ordered
    by_contra later
    have := offsetOf_lt (Nat.lt_of_not_le later) within
    omega
  · exact fun ordered => monotone_offsetOf text ordered

theorem offsetOf_lt_iff {text : Text} {start stop : Nat} (within : start < text.length) :
    offsetOf text start < offsetOf text stop ↔ start < stop := by
  rw [← Nat.not_le, offsetOf_le_iff within, Nat.not_le]

theorem slice?_offsetOf {text : Text} {start stop : Nat} (ordered : start ≤ stop) :
    slice? text (offsetOf text start) (offsetOf text stop) =
      some ((text.take stop).drop start) := by
  refine slice?_eq_some_iff.mpr ⟨text.take start, text.drop stop, ?_, rfl,
    offsetOf_add_byteLength text ordered⟩
  rw [← List.append_assoc, take_append_drop_take text ordered, List.take_append_drop]

end ProxyHistory.Text
