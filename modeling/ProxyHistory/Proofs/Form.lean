import Mathlib.Data.List.Forall2
import Mathlib.Tactic.SplitIfs
import ProxyHistory.Form
import ProxyHistory.Proofs.Text.Letters
import ProxyHistory.Proofs.Text.Spelling
import ProxyHistory.Proofs.Text.Utf8

/-!
# Forms are read back

Names and values are read back from each spelling of a form: with any bytes in percent encoding, and
with the others as they are. A plus sign that is as it is stands for a space, and an ampersand ends a
field. The written form that forms have here is one of their spellings.
-/

namespace ProxyHistory

namespace Percent

/-- The bytes are a byte in percent encoding. -/
inductive Writes : List UInt8 → UInt8 → Prop
  | digits {high low byte : UInt8} (first : hexValue? high = some (byte.toNat / 16))
      (second : hexValue? low = some (byte.toNat % 16)) : Writes [0x25, high, low] byte

theorem encode_hexDigit {value : Nat} (small : value < 16) :
    ∃ digit, Text.encodeChar (hexDigit value) = [digit] ∧ hexValue? digit = some value := by
  have single : ∀ value < 16, (hexDigit value).toNat < 0x80 := by decide
  have valued : ∀ value < 16, hexValue? (Text.byte (hexDigit value).toNat) = some value := by
    decide
  exact ⟨_, if_pos (single value small), valued value small⟩

theorem writes_encodeByte (byte : UInt8) : Writes (Text.encode (encodeByte byte)) byte := by
  have bound := byte.toNat_lt
  obtain ⟨high, highWritten, first⟩ := encode_hexDigit (show byte.toNat / 16 < 16 by omega)
  obtain ⟨low, lowWritten, second⟩ := encode_hexDigit (show byte.toNat % 16 < 16 by omega)
  have percent : Text.encodeChar '%' = [0x25] := rfl
  simp only [encodeByte, Text.encode, List.flatMap_cons, List.flatMap_nil, percent, highWritten,
    lowWritten, List.cons_append, List.nil_append]
  exact .digits first second

theorem Writes.not_mem {piece : List UInt8} {byte : UInt8} (writes : Writes piece byte)
    {mark : UInt8} (special : mark ∈ [Form.plus, Form.ampersand, Form.equals]) : mark ∉ piece := by
  obtain ⟨first, second⟩ := writes
  have all : ∀ mark ∈ [Form.plus, Form.ampersand, Form.equals],
      mark ≠ 0x25 ∧ hexValue? mark = none := by
    simp only [List.forall_mem_cons, List.not_mem_nil, false_imp_iff, implies_true, and_true]
    exact ⟨⟨by decide, rfl⟩, ⟨by decide, rfl⟩, ⟨by decide, rfl⟩⟩
  obtain ⟨noPercent, noDigit⟩ := all mark special
  simp only [List.mem_cons, List.not_mem_nil, or_false, not_or]
  refine ⟨noPercent, ?_, ?_⟩
  · rintro rfl
    rw [noDigit] at first
    cases first
  · rintro rfl
    rw [noDigit] at second
    cases second

theorem decode_cons {byte : UInt8} (plain : byte ≠ 0x25) (rest : List UInt8) :
    decode (byte :: rest) = byte :: decode rest := by
  rw [decode.eq_def]
  split
  · rename_i same
    exact absurd (List.cons.inj same).1 plain
  · rename_i same
    obtain ⟨rfl, rfl⟩ := List.cons.inj same
    rfl
  · rename_i same
    cases same

theorem Writes.decode {piece : List UInt8} {byte : UInt8} (writes : Writes piece byte)
    (rest : List UInt8) : decode (piece ++ rest) = byte :: decode rest := by
  obtain ⟨first, second⟩ := writes
  have whole : UInt8.ofNat (16 * (byte.toNat / 16) + byte.toNat % 16) = byte := by
    rw [Nat.div_add_mod, UInt8.ofNat_toNat]
  simp only [List.cons_append, List.nil_append, Percent.decode, first, second, whole]

end Percent

namespace Form

/-! ## Spellings -/

/-- The bytes may stand for the byte in a name or a value. -/
inductive Writes : List UInt8 → UInt8 → Prop
  | plain {byte : UInt8} (free : byte ∉ [0x25, plus, ampersand]) : Writes [byte] byte
  | blank : Writes [plus] 0x20
  | encoded {piece : List UInt8} {byte : UInt8} (writes : Percent.Writes piece byte) :
      Writes piece byte

/-- The bytes are a field with a name and a value. An equals sign in the name is encoded. -/
inductive WritesField : List UInt8 → Text × Text → Prop
  | field {named valued : List UInt8} {name value : Text}
      (name_spelled : Text.Spells Writes named (Text.encode name)) (unmarked : equals ∉ named)
      (value_spelled : Text.Spells Writes valued (Text.encode value)) :
      WritesField (named ++ equals :: valued) (name, value)

theorem spells_append {first second items others : List UInt8}
    (before : Text.Spells Writes first items) (after : Text.Spells Writes second others) :
    Text.Spells Writes (first ++ second) (items ++ others) := by
  induction before with
  | nil => exact after
  | cons writes later induction =>
      rw [List.append_assoc]
      exact .cons writes induction

theorem toNat_lt_of_isPlain {c : Char} (plain : isPlain c = true) : c.toNat < 0x80 := by
  simp only [isPlain, Char.isAlphanum, Bool.or_eq_true, Text.isAlpha_iff, Char.isDigit_iff_toNat,
    beq_iff_eq, show '9'.toNat = 57 from rfl] at plain
  rcases plain with ((((letter | digit) | rfl) | rfl) | rfl) | rfl
  · omega
  · omega
  all_goals decide

theorem exists_encodeChar_eq {c : Char} (plain : isPlain c = true) :
    ∃ byte, Text.encodeChar c = [byte] ∧ byte ∉ [0x25, plus, ampersand, equals] := by
  have small := toNat_lt_of_isPlain plain
  have all : ∀ code < 0x80, isPlain (Char.ofNat code) = true →
      Text.byte code ∉ [0x25, plus, ampersand, equals] := by
    decide
  refine ⟨Text.byte c.toNat, by rw [Text.encodeChar, if_pos small], all c.toNat small ?_⟩
  rwa [Char.ofNat_toNat]

/-- The written form of a character is one of its spellings, and in that no equals sign stands for
itself. -/
theorem spells_encodeChar (c : Char) :
    Text.Spells Writes (Text.encode (encode [c])) (Text.encodeChar c) ∧
      equals ∉ Text.encode (encode [c]) := by
  rw [encode, List.flatMap_singleton]
  split_ifs with plain blank
  · obtain ⟨byte, written, free⟩ := exists_encodeChar_eq plain
    simp only [List.mem_cons, List.not_mem_nil, or_false, not_or] at free
    rw [Text.encode, List.flatMap_singleton, written, List.mem_singleton]
    have writes : Writes [byte] byte := .plain (by simp [free])
    exact ⟨.cons writes .nil, Ne.symm free.2.2.2⟩
  · subst blank
    exact ⟨.cons .blank .nil, by decide⟩
  · generalize Text.encodeChar c = bytes
    induction bytes with
    | nil => exact ⟨.nil, List.not_mem_nil⟩
    | cons byte bytes induction =>
        have writes := Percent.writes_encodeByte byte
        rw [List.flatMap_cons, Text.encode_append, List.mem_append, not_or]
        exact ⟨.cons (.encoded writes) induction.1, writes.not_mem (by decide), induction.2⟩

theorem spells_encode (text : Text) :
    Text.Spells Writes (Text.encode (encode text)) (Text.encode text) ∧
      equals ∉ Text.encode (encode text) := by
  induction text with
  | nil => exact ⟨.nil, List.not_mem_nil⟩
  | cons c rest induction =>
      have first := spells_encodeChar c
      have encode_eq : encode (c :: rest) = encode [c] ++ encode rest := by simp [encode]
      rw [encode_eq, Text.encode_append, Text.encode_cons, List.mem_append, not_or]
      exact ⟨spells_append first.1 induction.1, first.2, induction.2⟩

/-- The written form of a field is one of its spellings. -/
theorem writesField_render (name value : Text) :
    WritesField (Text.encode (render [(name, value)])) (name, value) := by
  have render_eq : Text.encode (render [(name, value)]) =
      Text.encode (encode name) ++ equals :: Text.encode (encode value) := by
    rw [render, List.map_singleton, List.intercalate_singleton, Text.encode_append,
      Text.encode_cons]
    rfl
  rw [render_eq]
  exact .field (spells_encode name).1 (spells_encode name).2 (spells_encode value).1

/-! ## Reading -/

/-- A byte in a form as it is read, a plus sign as the space that it stands for. -/
def space (byte : UInt8) : UInt8 :=
  if byte = plus then 0x20 else byte

theorem map_space_of_not_mem {bytes : List UInt8} (free : plus ∉ bytes) :
    bytes.map space = bytes := by
  refine (List.map_congr_left fun byte member => ?_).trans (List.map_id bytes)
  refine if_neg ?_
  rintro rfl
  exact free member

theorem Writes.decode {piece : List UInt8} {byte : UInt8} (writes : Writes piece byte)
    (rest : List UInt8) :
    Percent.decode (piece.map space ++ rest) = byte :: Percent.decode rest := by
  cases writes with
  | plain free =>
      simp only [List.mem_cons, List.not_mem_nil, or_false, not_or] at free
      obtain ⟨noPercent, noPlus, -⟩ := free
      rw [List.map_singleton, space, if_neg noPlus]
      exact Percent.decode_cons noPercent rest
  | blank => exact Percent.decode_cons (by decide) rest
  | encoded writes =>
      rw [map_space_of_not_mem (writes.not_mem (by decide)), writes.decode]

theorem percentDecode_spelled {written bytes : List UInt8}
    (spells : Text.Spells Writes written bytes) : Percent.decode (written.map space) = bytes := by
  induction spells with
  | nil => rfl
  | cons first later induction => rw [List.map_append, first.decode, induction]

/-- A name or a value is read back from each of its spellings. -/
theorem decode_spelled {written : List UInt8} {text : Text}
    (spells : Text.Spells Writes written (Text.encode text)) : decode written = text :=
  (congrArg Text.decodeLossy (percentDecode_spelled spells)).trans (Text.decodeLossy_encode text)

theorem Writes.ampersand_not_mem {piece : List UInt8} {byte : UInt8} (writes : Writes piece byte) :
    ampersand ∉ piece := by
  cases writes with
  | plain free => exact fun member => free (List.mem_singleton.mp member ▸ by decide)
  | blank => decide
  | encoded writes => exact writes.not_mem (by decide)

theorem WritesField.ampersand_not_mem {piece : List UInt8} {field : Text × Text}
    (writes : WritesField piece field) : ampersand ∉ piece := by
  obtain ⟨nameSpelled, -, valueSpelled⟩ := writes
  have inName := nameSpelled.not_mem fun _ _ writes => writes.ampersand_not_mem
  have inValue := valueSpelled.not_mem fun _ _ writes => writes.ampersand_not_mem
  have noEquals : ampersand ≠ equals := by decide
  simp [inName, inValue, noEquals]

theorem WritesField.ne_nil {piece : List UInt8} {field : Text × Text}
    (writes : WritesField piece field) : piece ≠ [] := by
  obtain ⟨-, -, -⟩ := writes
  simp

theorem WritesField.decode {piece : List UInt8} {field : Text × Text}
    (writes : WritesField piece field) :
    (Form.decode (piece.takeWhile (· ≠ equals)),
      Form.decode (piece.drop ((piece.takeWhile (· ≠ equals)).length + 1))) = field := by
  obtain @⟨named, valued, name, value, nameSpelled, unmarked, valueSpelled⟩ := writes
  have name_eq : (named ++ equals :: valued).takeWhile (· ≠ equals) = named := by
    rw [List.takeWhile_append_of_pos, List.takeWhile_cons_of_neg (by simp), List.append_nil]
    rintro byte member
    rw [decide_eq_true_eq]
    rintro rfl
    exact unmarked member
  have value_eq : (named ++ equals :: valued).drop (named.length + 1) = valued := by
    simp
  rw [name_eq, value_eq, decode_spelled nameSpelled, decode_spelled valueSpelled]

/-- Names and values are read back from each spelling of a form. -/
theorem parse_intercalate {pieces : List (List UInt8)} {fields : List (Text × Text)}
    (writes : List.Forall₂ WritesField pieces fields) :
    parse (List.intercalate [ampersand] pieces) = fields := by
  by_cases empty : pieces = []
  · subst empty
    cases writes
    rfl
  · have free : ∀ piece ∈ pieces, ampersand ∉ piece := by
      clear empty
      induction writes with
      | nil => exact List.forall_mem_nil _
      | cons first _ induction =>
          exact List.forall_mem_cons.mpr ⟨first.ampersand_not_mem, induction⟩
    rw [parse, List.splitOn_intercalate ampersand free empty]
    clear empty free
    induction writes with
    | nil => rfl
    | cons first _ induction =>
        rw [List.filter_cons_of_pos (by simpa using first.ne_nil), List.map_cons, induction]
        exact congrArg (· :: _) first.decode

end Form

end ProxyHistory
