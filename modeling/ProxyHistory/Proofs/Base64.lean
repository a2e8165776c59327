import ProxyHistory.Base64
import ProxyHistory.Proofs.Text.Blank
import ProxyHistory.Proofs.Text.Utf8

/-!
# Base64 is read back

Bytes are read back from their Base64 form. A group of four symbols carries the bits of three bytes,
so it is enough to see that the number they stand for is put together again.
-/

namespace ProxyHistory.Base64

/-- The byte of the symbol for six bits. -/
def code (bits : Nat) : UInt8 :=
  Text.byte (symbol bits).toNat

theorem encodeChar_symbol {bits : Nat} (small : bits < 64) :
    Text.encodeChar (symbol bits) = [code bits] := by
  have all : ∀ bits < 64, Text.encodeChar (symbol bits) = [code bits] := by decide
  exact all bits small

theorem bits?_code {bits : Nat} (small : bits < 64) : bits? (code bits) = some bits := by
  have all : ∀ bits < 64, bits? (code bits) = some bits := by decide
  exact all bits small

theorem code_ne_padding {bits : Nat} (small : bits < 64) : code bits ≠ padding := by
  intro same
  have read := bits?_code small
  rw [same] at read
  cases read

theorem readBits_code {bits : Nat} (small : bits < 64) (offset : Nat) :
    readBits offset (code bits) = .ok bits := by
  rw [readBits, bits?_code small]

theorem ofNat_eq {value : Nat} (target : UInt8) (same : value % 0x100 = target.toNat) :
    UInt8.ofNat value = target := by
  rw [← UInt8.toNat_inj, UInt8.toNat_ofNat', same]

/-- The first of the symbols of a group, before its padding. -/
theorem takeWhile_code {symbols : List Nat} (small : ∀ bits ∈ symbols, bits < 64) (padded : Nat) :
    (symbols.map code ++ List.replicate padded padding).takeWhile (· ≠ padding) =
      symbols.map code := by
  rw [List.takeWhile_append_of_pos]
  · cases padded with
    | zero => simp
    | succ padded => simp [List.replicate_succ]
  · intro byte member
    obtain ⟨bits, inside, rfl⟩ := List.mem_map.mp member
    simpa using code_ne_padding (small bits inside)

theorem readBits_all {symbols : List Nat} (small : ∀ bits ∈ symbols, bits < 64) (offset : Nat) :
    (((symbols.map code).zipIdx offset).mapM fun (byte, offset) => readBits offset byte) =
      .ok symbols := by
  induction symbols generalizing offset with
  | nil => rfl
  | cons bits symbols induction =>
      obtain ⟨first, rest⟩ := List.forall_mem_cons.mp small
      rw [List.map_cons, List.zipIdx_cons, List.mapM_cons, induction rest]
      dsimp only
      rw [readBits_code first]
      rfl

theorem splitPadding_code {symbols : List Nat} (small : ∀ bits ∈ symbols, bits < 64)
    (enough : 2 ≤ symbols.length) (offset padded : Nat) :
    splitPadding offset (symbols.map code ++ List.replicate padded padding) =
      .ok ((symbols.map code).zipIdx offset, padded) := by
  have noOther : (List.replicate padded padding).any (· ≠ padding) = false := by
    simp
  rw [splitPadding, takeWhile_code small, List.drop_left]
  simp only [noOther, List.length_map, List.length_replicate, Bool.false_eq_true, or_false]
  rw [if_neg (by omega)]

/-- The number that the bits of symbols make up. -/
def number (symbols : List Nat) : Nat :=
  symbols.foldl (fun number bits => number * 64 + bits) 0

theorem decodeLast_two {x y : Nat} (small : ∀ bits ∈ [x, y], bits < 64)
    (unused : number [x, y] % 16 = 0) (offset : Nat) :
    decodeLast offset [code x, code y, padding, padding] =
      .ok [UInt8.ofNat (number [x, y] / 16)] := by
  have taken : [code x, code y, padding, padding].takeWhile (· ≠ padding) = [code x, code y] :=
    takeWhile_code small 2
  have bits : ([code x, code y].zipIdx offset).mapM (fun (byte, offset) => readBits offset byte) =
      .ok [x, y] :=
    readBits_all small offset
  have split : splitPadding offset [code x, code y, padding, padding] =
      .ok ([code x, code y].zipIdx offset, 2) :=
    splitPadding_code small (Nat.le_refl 2) offset 2
  unfold decodeLast
  dsimp only
  rw [taken, bits, split]
  refine (if_neg fun unpadded => unpadded (Nat.mod_self 4)).trans ?_
  exact if_neg fun used => used unused

theorem decodeLast_three {x y z : Nat} (small : ∀ bits ∈ [x, y, z], bits < 64)
    (unused : number [x, y, z] % 4 = 0) (offset : Nat) :
    decodeLast offset [code x, code y, code z, padding] =
      .ok [UInt8.ofNat (number [x, y, z] / 0x400), UInt8.ofNat (number [x, y, z] / 4)] := by
  have taken : [code x, code y, code z, padding].takeWhile (· ≠ padding) =
      [code x, code y, code z] :=
    takeWhile_code small 1
  have bits : ([code x, code y, code z].zipIdx offset).mapM
      (fun (byte, offset) => readBits offset byte) = .ok [x, y, z] :=
    readBits_all small offset
  have split : splitPadding offset [code x, code y, code z, padding] =
      .ok ([code x, code y, code z].zipIdx offset, 1) :=
    splitPadding_code small (Nat.le_succ 2) offset 1
  unfold decodeLast
  dsimp only
  rw [taken, bits, split]
  refine (if_neg fun unpadded => unpadded (Nat.mod_self 4)).trans ?_
  exact if_neg fun used => used unused

theorem decodeLast_four {w x y z : Nat} (small : ∀ bits ∈ [w, x, y, z], bits < 64)
    (offset : Nat) :
    decodeLast offset [code w, code x, code y, code z] =
      .ok [UInt8.ofNat (number [w, x, y, z] / 0x10000), UInt8.ofNat (number [w, x, y, z] / 0x100),
        UInt8.ofNat (number [w, x, y, z])] := by
  have taken : [code w, code x, code y, code z].takeWhile (· ≠ padding) =
      [code w, code x, code y, code z] :=
    takeWhile_code small 0
  have bits : ([code w, code x, code y, code z].zipIdx offset).mapM
      (fun (byte, offset) => readBits offset byte) = .ok [w, x, y, z] :=
    readBits_all small offset
  have split : splitPadding offset [code w, code x, code y, code z] =
      .ok ([code w, code x, code y, code z].zipIdx offset, 0) :=
    splitPadding_code small (by simp) offset 0
  unfold decodeLast
  dsimp only
  rw [taken, bits, split]
  exact if_neg fun unpadded => unpadded (Nat.mod_self 4)

/-- What stands in front of the last group is read in groups of four. -/
theorem decodeFrom_four {w x y z : Nat} (small : ∀ bits ∈ [w, x, y, z], bits < 64) (offset : Nat)
    {rest : List UInt8} (more : rest ≠ []) {read : List UInt8}
    (later : decodeFrom (offset + 4) rest = .ok read) :
    decodeFrom offset (code w :: code x :: code y :: code z :: rest) =
      .ok (UInt8.ofNat (number [w, x, y, z] / 0x10000) ::
        UInt8.ofNat (number [w, x, y, z] / 0x100) ::
          UInt8.ofNat (number [w, x, y, z]) :: read) := by
  obtain ⟨next, rest, rfl⟩ := List.exists_cons_of_ne_nil more
  have each (bits : Nat) (member : bits ∈ [w, x, y, z]) (offset : Nat) :
      readBits offset (code bits) = .ok bits :=
    readBits_code (small bits member) offset
  rw [decodeFrom, each w (by simp), each x (by simp), each y (by simp), each z (by simp), later]
  simp only [number, List.foldl_cons, List.foldl_nil, Nat.zero_mul, Nat.zero_add]
  rfl

/-! ## Whole texts -/

/-- The number of three bytes. -/
def groupOf (a b c : UInt8) : Nat :=
  (a.toNat * 256 + b.toNat) * 256 + c.toNat

/-- The six bits of each symbol of a group of three bytes. -/
def symbolsOf (group : Nat) : List Nat :=
  [group / 0x40000, group / 0x1000 % 64, group / 64 % 64, group % 64]

theorem symbolsOf_small (a b c : UInt8) : ∀ bits ∈ symbolsOf (groupOf a b c), bits < 64 := by
  have bounds := And.intro a.toNat_lt (And.intro b.toNat_lt c.toNat_lt)
  simp only [symbolsOf, groupOf, List.forall_mem_cons, List.not_mem_nil, false_imp_iff,
    implies_true, and_true]
  omega

theorem number_symbolsOf (group : Nat) : number (symbolsOf group) = group := by
  simp only [number, symbolsOf, List.foldl_cons, List.foldl_nil]
  omega

theorem bytes_groupOf (a b c : UInt8) :
    [UInt8.ofNat (groupOf a b c / 0x10000), UInt8.ofNat (groupOf a b c / 0x100),
      UInt8.ofNat (groupOf a b c)] = [a, b, c] := by
  have bounds := And.intro a.toNat_lt (And.intro b.toNat_lt c.toNat_lt)
  rw [groupOf, ofNat_eq a (by omega), ofNat_eq b (by omega), ofNat_eq c (by omega)]

theorem encode_symbols {symbols : List Nat} (small : ∀ bits ∈ symbols, bits < 64) :
    Text.encode (symbols.map symbol) = symbols.map code := by
  induction symbols with
  | nil => rfl
  | cons bits symbols induction =>
      obtain ⟨first, rest⟩ := List.forall_mem_cons.mp small
      rw [List.map_cons, List.map_cons, Text.encode, List.flatMap_cons, encodeChar_symbol first,
        ← Text.encode, induction rest, List.singleton_append]

theorem encode_three (a b c : UInt8) (rest : List UInt8) :
    Text.encode (encode (a :: b :: c :: rest)) =
      (symbolsOf (groupOf a b c)).map code ++ Text.encode (encode rest) := by
  rw [← encode_symbols (symbolsOf_small a b c), ← Text.encode_append]
  rfl

theorem encode_two (a b : UInt8) :
    Text.encode (encode [a, b]) =
      [code ((a.toNat * 256 + b.toNat) * 4 / 0x1000),
        code ((a.toNat * 256 + b.toNat) * 4 / 64 % 64),
        code ((a.toNat * 256 + b.toNat) * 4 % 64), padding] := by
  have bounds := And.intro a.toNat_lt b.toNat_lt
  simp only [encode, Text.encode, List.flatMap_cons]
  rw [encodeChar_symbol (by omega), encodeChar_symbol (by omega), encodeChar_symbol (by omega)]
  rfl

theorem encode_one (a : UInt8) :
    Text.encode (encode [a]) =
      [code (a.toNat * 16 / 64), code (a.toNat * 16 % 64), padding, padding] := by
  have bounds := a.toNat_lt
  simp only [encode, Text.encode, List.flatMap_cons]
  rw [encodeChar_symbol (by omega), encodeChar_symbol (by omega)]
  rfl

/-- Three bytes take four symbols, and so do those that are left over. -/
theorem length_encode (bytes : List UInt8) :
    (Text.encode (encode bytes)).length = (bytes.length + 2) / 3 * 4 := by
  induction bytes using encode.induct with
  | case1 a b c rest induction =>
      rw [encode_three, List.length_append, induction]
      simp only [symbolsOf, List.length_map, List.length_cons, List.length_nil]
      omega
  | case2 a b => simp [encode_two]
  | case3 a => simp [encode_one]
  | case4 => rfl

theorem decodeFrom_encode (offset : Nat) (bytes : List UInt8) (ne_nil : bytes ≠ []) :
    decodeFrom offset (Text.encode (encode bytes)) = .ok bytes := by
  induction bytes using encode.induct generalizing offset with
  | case1 a b c rest induction =>
      have small := symbolsOf_small a b c
      have same := bytes_groupOf a b c
      rw [← number_symbolsOf (groupOf a b c)] at same
      rw [encode_three]
      by_cases last : rest = []
      · rw [last]
        exact (decodeLast_four small offset).trans (congrArg Except.ok same)
      · have more : Text.encode (encode rest) ≠ [] := by
          rw [← List.length_pos_iff, length_encode]
          have some := List.length_pos_iff.mpr last
          omega
        refine (decodeFrom_four small offset more (induction (offset + 4) last)).trans ?_
        exact congrArg (fun front => Except.ok (front ++ rest)) same
  | case2 a b =>
      have bounds := And.intro a.toNat_lt b.toNat_lt
      rw [encode_two]
      refine (decodeLast_three ?_ ?_ offset).trans ?_
      · simp only [List.forall_mem_cons, List.not_mem_nil, false_imp_iff, implies_true, and_true]
        omega
      · simp only [number, List.foldl_cons, List.foldl_nil]
        omega
      · simp only [number, List.foldl_cons, List.foldl_nil]
        rw [ofNat_eq a (by omega), ofNat_eq b (by omega)]
  | case3 a =>
      have bounds := a.toNat_lt
      rw [encode_one]
      refine (decodeLast_two ?_ ?_ offset).trans ?_
      · simp only [List.forall_mem_cons, List.not_mem_nil, false_imp_iff, implies_true, and_true]
        omega
      · simp only [number, List.foldl_cons, List.foldl_nil]
        omega
      · simp only [number, List.foldl_cons, List.foldl_nil]
        rw [ofNat_eq a (by omega)]
  | case4 => exact absurd rfl ne_nil

/-- Bytes are read back from their Base64 form. -/
theorem decode_encode (bytes : List UInt8) : decode (Text.encode (encode bytes)) = .ok bytes := by
  rw [decode]
  split
  · rename_i last found
    have ne_nil : bytes ≠ [] := by
      rintro rfl
      cases found
    rw [length_encode, if_neg (by omega), decodeFrom_encode 0 bytes ne_nil]
  · rename_i none
    have empty := congrArg List.length (List.getLast?_eq_none_iff.mp none)
    rw [length_encode, List.length_nil] at empty
    rw [List.length_eq_zero_iff.mp (show bytes.length = 0 by omega)]

/-- What holds of all symbols and of what pads holds of all characters of a Base64 form. -/
theorem forall_mem_encode {holds : Char → Prop} (symbols : ∀ bits < 64, holds (symbol bits))
    (pads : holds '=') (bytes : List UInt8) : ∀ c ∈ encode bytes, holds c := by
  induction bytes using encode.induct with
  | case1 a b c rest induction =>
      have bounds := And.intro a.toNat_lt (And.intro b.toNat_lt c.toNat_lt)
      simp only [encode, List.forall_mem_cons]
      exact ⟨symbols _ (by omega), symbols _ (by omega), symbols _ (by omega), symbols _ (by omega),
        induction⟩
  | case2 a b =>
      have bounds := And.intro a.toNat_lt b.toNat_lt
      simp only [encode, List.forall_mem_cons]
      exact ⟨symbols _ (by omega), symbols _ (by omega), symbols _ (by omega), pads, by simp⟩
  | case3 a =>
      have bounds := a.toNat_lt
      simp only [encode, List.forall_mem_cons]
      exact ⟨symbols _ (by omega), symbols _ (by omega), pads, pads, by simp⟩
  | case4 => simp [encode]

theorem trim_encode (bytes : List UInt8) : Text.trim (encode bytes) = encode bytes := by
  have plain : ∀ c ∈ encode bytes, Text.isBlank c = false :=
    forall_mem_encode (by decide) (by decide) bytes
  exact Text.trim_of_trimmed
    ⟨fun c head => plain c (List.mem_of_mem_head? head),
      fun c last => plain c (List.mem_of_mem_getLast? last)⟩

end ProxyHistory.Base64
