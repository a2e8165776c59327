import Mathlib.Tactic.SplitIfs
import ProxyHistory.Json.Printer
import ProxyHistory.Json.Reader
import ProxyHistory.Proofs.Steps
import ProxyHistory.Proofs.Text.Spelling
import ProxyHistory.Proofs.Text.Utf8

/-!
# JSON strings are read exactly

What is read as a string is one of its spellings in quotes, and each spelling is read as the string.
The reader stops behind the closing quote. The written form that strings have here is one of their
spellings.
-/

namespace ProxyHistory.Json

/-! ## Spellings -/

/-- The four hexadecimal digits write the number. -/
inductive WritesUnit : RawText → Nat → Prop
  | digits {w x y z : Char} {a b c d unit : Nat} (first : hexValue? w = some a)
      (second : hexValue? x = some b) (third : hexValue? y = some c) (fourth : hexValue? z = some d)
      (whole : ((a * 16 + b) * 16 + c) * 16 + d = unit) :
      WritesUnit [some w, some x, some y, some z] unit

/-- The letters of the escapes that have no digits, each with the character that is escaped. -/
def letterEscapes : List (Char × Char) :=
  [('"', '"'), ('\\', '\\'), ('/', '/'), ('b', '\u0008'), ('f', '\u000C'), ('n', '\n'), ('r', '\r'),
    ('t', '\t')]

/-- The text may stand for the character between quotes, or for a gap. In the strict way of reading
no surrogate stands alone, and two are put together. -/
inductive WritesChar (strict : Bool) : RawText → Option Char → Prop
  | plain {c : Char} (noQuote : c ≠ '"') (noEscape : c ≠ '\\') (noControl : ¬ c.toNat < 0x20) :
      WritesChar strict [some c] (some c)
  | gap : WritesChar strict [none] none
  | letter {letter c : Char} (escape : (letter, c) ∈ letterEscapes) :
      WritesChar strict [some '\\', some letter] (some c)
  | unit {digits : RawText} {unit : Nat} (writes : WritesUnit digits unit)
      (single : strict = true → unit < 0xD800 ∨ 0xDFFF < unit) :
      WritesChar strict (some '\\' :: some 'u' :: digits) (some (Char.ofNat unit))
  | surrogates {leading trailing : RawText} {high low : Nat} (strictly : strict = true)
      (first : WritesUnit leading high) (second : WritesUnit trailing low)
      (isHigh : 0xD800 ≤ high ∧ high < 0xDC00) (isLow : 0xDC00 ≤ low ∧ low < 0xE000) :
      WritesChar strict
        (some '\\' :: some 'u' :: (leading ++ some '\\' :: some 'u' :: trailing))
        (some (Char.ofNat (0x10000 + (high - 0xD800) * 0x400 + (low - 0xDC00))))

/-- The text is a string in quotes. One that is read in the strict way has no gaps. -/
inductive WritesString (strict : Bool) : RawText → Text → Prop
  | quoted {written raw : RawText} (spells : Text.Spells (WritesChar strict) written raw)
      (noGaps : strict = true → none ∉ raw) :
      WritesString strict (some '"' :: (written ++ [some '"'])) raw.lossy

theorem hexValue?_hexDigit {value : Nat} (small : value < 16) :
    hexValue? (hexDigit value) = some value := by
  have all : ∀ value < 16, hexValue? (hexDigit value) = some value := by decide
  exact all value small

theorem writesChar_escape (strict : Bool) (c : Char) :
    WritesChar strict (escape c).raw (some c) := by
  rw [escape]
  split_ifs with quote backslash backspace formFeed lineFeed carriageReturn tab control
  · exact .letter (by subst quote; decide)
  · exact .letter (by subst backslash; decide)
  · exact .letter (by subst backspace; decide)
  · exact .letter (by subst formFeed; decide)
  · exact .letter (by subst lineFeed; decide)
  · exact .letter (by subst carriageReturn; decide)
  · exact .letter (by subst tab; decide)
  · have zero : hexValue? '0' = some 0 := rfl
    have writes : WritesUnit (Text.raw ['0', '0', hexDigit (c.toNat / 16), hexDigit (c.toNat % 16)])
        c.toNat :=
      .digits zero zero (hexValue?_hexDigit (by omega)) (hexValue?_hexDigit (by omega)) (by omega)
    have escaped : WritesChar strict (some '\\' :: some 'u' :: _) (some (Char.ofNat c.toNat)) :=
      .unit writes fun _ => .inl (by omega)
    rwa [Char.ofNat_toNat] at escaped
  · exact .plain quote backslash control

theorem writesString_quote (strict : Bool) (text : Text) :
    WritesString strict (quote text).raw text := by
  have spells : Text.Spells (WritesChar strict) (Text.raw (text.flatMap escape)) text.raw := by
    induction text with
    | nil => exact .nil
    | cons c rest induction =>
        rw [List.flatMap_cons, Text.raw_append, Text.raw_cons]
        exact .cons (writesChar_escape strict c) induction
  have quoted := WritesString.quoted spells fun _ => Text.none_not_mem_raw text
  rw [Text.lossy_raw] at quoted
  rwa [quote, List.cons_append, Text.raw_cons, Text.raw_append]

theorem WritesChar.ne_nil {strict : Bool} {piece : RawText} {c? : Option Char}
    (writes : WritesChar strict piece c?) : piece ≠ [] := by
  cases writes <;> exact List.cons_ne_nil _ _

/-! ## Escapes -/

theorem WritesUnit.readHex {digits : RawText} {unit : Nat} (writes : WritesUnit digits unit)
    (rest : RawText) : readHex (digits ++ rest) = .ok (unit, rest) := by
  obtain ⟨first, second, third, fourth, whole⟩ := writes
  simp only [List.cons_append, List.nil_append, Json.readHex, Option.bind_some, first, second, third,
    fourth, whole]

theorem writesUnit_of_readHex {text rest : RawText} {unit : Nat}
    (read : readHex text = .ok (unit, rest)) :
    ∃ digits, text = digits ++ rest ∧ WritesUnit digits unit := by
  unfold readHex at read
  split at read
  · split at read
    · rename_i first second third fourth
      obtain ⟨w, rfl, first⟩ := Option.bind_eq_some_iff.mp first
      obtain ⟨x, rfl, second⟩ := Option.bind_eq_some_iff.mp second
      obtain ⟨y, rfl, third⟩ := Option.bind_eq_some_iff.mp third
      obtain ⟨z, rfl, fourth⟩ := Option.bind_eq_some_iff.mp fourth
      cases read
      exact ⟨_, rfl, .digits first second third fourth rfl⟩
    · split_ifs at read
      cases read
  · split_ifs at read
    cases read

theorem readEscape_letter (strict : Bool) {letter c : Char} (escape : (letter, c) ∈ letterEscapes)
    (rest : RawText) : readEscape strict (some letter :: rest) = .ok (c, rest) := by
  have all : ∀ pair ∈ letterEscapes,
      readEscape strict (some pair.1 :: rest) = .ok (pair.2, rest) := by
    simp only [letterEscapes, List.forall_mem_cons, List.not_mem_nil, false_imp_iff, implies_true,
      and_true]
    exact ⟨rfl, rfl, rfl, rfl, rfl, rfl, rfl, rfl⟩
  exact all _ escape

theorem readUnicodeEscape_unit {strict : Bool} {digits : RawText} {unit : Nat}
    (writes : WritesUnit digits unit) (single : strict = true → unit < 0xD800 ∨ 0xDFFF < unit)
    (rest : RawText) :
    readUnicodeEscape strict (digits ++ rest) = .ok (Char.ofNat unit, rest) := by
  rw [readUnicodeEscape, writes.readHex]
  cases strict with
  | false => rfl
  | true =>
      have alone := single rfl
      have noTrailing : ¬ (0xDC00 ≤ unit ∧ unit ≤ 0xDFFF) := by omega
      have noLeading : unit < 0xD800 ∨ 0xDBFF < unit := by omega
      simp only [bind, Except.bind, Bool.not_true, Bool.false_eq_true, if_false, if_neg noTrailing,
        if_pos noLeading]
      rfl

theorem readUnicodeEscape_surrogates {leading trailing : RawText} {high low : Nat}
    (first : WritesUnit leading high) (second : WritesUnit trailing low)
    (isHigh : 0xD800 ≤ high ∧ high < 0xDC00) (isLow : 0xDC00 ≤ low ∧ low < 0xE000)
    (rest : RawText) :
    readUnicodeEscape true ((leading ++ some '\\' :: some 'u' :: trailing) ++ rest) =
      .ok (Char.ofNat (0x10000 + (high - 0xD800) * 0x400 + (low - 0xDC00)), rest) := by
  have noTrailing : ¬ (0xDC00 ≤ high ∧ high ≤ 0xDFFF) := by omega
  have noSingle : ¬ (high < 0xD800 ∨ 0xDBFF < high) := by omega
  have isTrailing : ¬ (low < 0xDC00 ∨ 0xDFFF < low) := by omega
  rw [readUnicodeEscape, List.append_assoc, first.readHex]
  simp only [List.cons_append, bind, Except.bind, Bool.not_true, Bool.false_eq_true, if_false,
    if_neg noTrailing, if_neg noSingle, second.readHex, if_neg isTrailing]
  rfl

theorem writesChar_of_readUnicodeEscape {strict : Bool} {text rest : RawText} {c : Char}
    (read : readUnicodeEscape strict text = .ok (c, rest)) :
    ∃ escaped, text = escaped ++ rest ∧
      WritesChar strict (some '\\' :: some 'u' :: escaped) (some c) := by
  obtain ⟨⟨unit, after⟩, readUnit, later⟩ := exists_of_bind_eq_ok read
  obtain ⟨digits, rfl, writes⟩ := writesUnit_of_readHex readUnit
  cases strict with
  | false =>
      cases later
      exact ⟨digits, rfl, .unit writes nofun⟩
  | true =>
      simp only [Bool.not_true, Bool.false_eq_true, if_false] at later
      split_ifs at later with trailing single
      · cases later
      · cases later
        exact ⟨digits, rfl, .unit writes fun _ => by omega⟩
      · split at later
        case h_3 more _ =>
          obtain ⟨⟨low, last⟩, readLow, joined⟩ := exists_of_bind_eq_ok later
          obtain ⟨lowDigits, rfl, writesLow⟩ := writesUnit_of_readHex readLow
          dsimp only at joined
          split_ifs at joined with noTrailing
          · cases joined
          · obtain ⟨rfl, rfl⟩ := Prod.mk.inj (Except.ok.inj joined)
            refine ⟨digits ++ some '\\' :: some 'u' :: lowDigits, by simp, ?_⟩
            exact .surrogates rfl writes writesLow (by omega) (by omega)
        all_goals cases later

theorem writesChar_of_readEscape {strict : Bool} {text rest : RawText} {c : Char}
    (read : readEscape strict text = .ok (c, rest)) :
    ∃ escaped, text = escaped ++ rest ∧ WritesChar strict (some '\\' :: escaped) (some c) := by
  unfold readEscape at read
  split at read
  · cases read
  · cases read
  · split at read
    case h_9 =>
      obtain ⟨escaped, rfl, writes⟩ := writesChar_of_readUnicodeEscape read
      exact ⟨some 'u' :: escaped, rfl, writes⟩
    case h_10 => cases read
    all_goals
      cases read
      exact ⟨_, rfl, .letter (by decide)⟩

/-! ## Strings -/

section Steps

variable {strict : Bool} {fuel : Nat} {rest more after : RawText}
  (later : readStringTail strict fuel rest = .ok (more, after))

include later

theorem readStringTail_escape {escaped : RawText} {c : Char}
    (read : readEscape strict escaped = .ok (c, rest)) :
    readStringTail strict (fuel + 1) (some '\\' :: escaped) = .ok (some c :: more, after) := by
  have notQuote : '\\' ≠ '"' := by decide
  rw [readStringTail, if_neg notQuote, if_pos rfl, read]
  simp only [bind, Except.bind, later]
  rfl

theorem WritesChar.readStringTail {piece : RawText} {c? : Option Char}
    (writes : WritesChar strict piece c?) :
    readStringTail strict (fuel + 1) (piece ++ rest) = .ok (c? :: more, after) := by
  cases writes with
  | plain noQuote noEscape noControl =>
      rw [List.singleton_append, Json.readStringTail, if_neg noQuote, if_neg noEscape,
        if_neg noControl, later]
      rfl
  | gap =>
      rw [List.singleton_append, Json.readStringTail, later]
      rfl
  | letter escape => exact readStringTail_escape later (readEscape_letter strict escape rest)
  | unit writes single =>
      exact readStringTail_escape later (readUnicodeEscape_unit writes single rest)
  | surrogates strictly first second isHigh isLow =>
      subst strictly
      exact readStringTail_escape later
        (readUnicodeEscape_surrogates first second isHigh isLow rest)

end Steps

theorem readStringTail_spelled {strict : Bool} {written raw : RawText}
    (spells : Text.Spells (WritesChar strict) written raw) {fuel : Nat} (enough : raw.length < fuel)
    (rest : RawText) :
    readStringTail strict fuel (written ++ some '"' :: rest) = .ok (raw, rest) := by
  induction spells generalizing fuel with
  | nil =>
      obtain ⟨fuel, rfl⟩ := Nat.exists_eq_add_of_lt enough
      exact if_pos rfl
  | cons first later induction =>
      obtain ⟨fuel, rfl⟩ : ∃ less, fuel = less + 1 := ⟨fuel - 1, by omega⟩
      rw [List.append_assoc]
      exact first.readStringTail (induction (Nat.lt_of_succ_lt_succ enough))

theorem spells_of_readStringTail {strict : Bool} {fuel : Nat} {text raw rest : RawText}
    (read : readStringTail strict fuel text = .ok (raw, rest)) :
    ∃ written, text = written ++ some '"' :: rest ∧
      Text.Spells (WritesChar strict) written raw := by
  induction fuel generalizing text raw with
  | zero => cases read
  | succ fuel induction =>
      rcases text with _ | ⟨_ | c, behind⟩
      · cases read
      · obtain ⟨⟨more, after⟩, readMore, later⟩ := exists_of_bind_eq_ok read
        cases later
        obtain ⟨written, rfl, spells⟩ := induction readMore
        exact ⟨none :: written, rfl, .cons .gap spells⟩
      · rw [readStringTail] at read
        split_ifs at read with quote escape control
        · cases read
          subst quote
          exact ⟨[], rfl, .nil⟩
        · obtain ⟨⟨escaped, middle⟩, readFirst, later⟩ := exists_of_bind_eq_ok read
          obtain ⟨⟨more, after⟩, readMore, later⟩ := exists_of_bind_eq_ok later
          cases later
          obtain ⟨piece, rfl, writes⟩ := writesChar_of_readEscape readFirst
          obtain ⟨written, rfl, spells⟩ := induction readMore
          subst escape
          exact ⟨some '\\' :: piece ++ written, by simp, .cons writes spells⟩
        · cases read
        · obtain ⟨⟨more, after⟩, readMore, later⟩ := exists_of_bind_eq_ok read
          cases later
          obtain ⟨written, rfl, spells⟩ := induction readMore
          exact ⟨some c :: written, rfl, .cons (.plain quote escape control) spells⟩

/-- A string is read back from each of its spellings. -/
theorem WritesString.readString {strict : Bool} {part : RawText} {text : Text}
    (writes : WritesString strict part text) :
    ∃ behind, part = some '"' :: behind ∧
      ∀ rest, readString strict (behind ++ rest) = .ok (text, rest) := by
  obtain @⟨written, raw, spells, noGaps⟩ := writes
  refine ⟨written ++ [some '"'], rfl, fun rest => ?_⟩
  have shorter := spells.length_le fun _ _ writes => writes.ne_nil
  have enough : raw.length < (written ++ [some '"'] ++ rest).length + 1 := by
    simp only [List.length_append, List.length_singleton]
    omega
  have read := readStringTail_spelled spells enough rest
  rw [Json.readString, List.append_assoc, List.singleton_append] at *
  rw [read]
  simp only [bind, Except.bind, RawText.text?_eq]
  by_cases gaps : none ∈ raw
  · cases strict with
    | true => exact absurd gaps (noGaps rfl)
    | false => rw [if_pos gaps]; rfl
  · rw [if_neg gaps]
    rfl

/-- What is read as a string is one of its spellings. -/
theorem writesString_of_readString {strict : Bool} {text rest : RawText} {value : Text}
    (read : readString strict text = .ok (value, rest)) :
    ∃ behind, text = behind ++ rest ∧ WritesString strict (some '"' :: behind) value := by
  obtain ⟨⟨raw, after⟩, readTail, later⟩ := exists_of_bind_eq_ok read
  obtain ⟨written, rfl, spells⟩ := spells_of_readStringTail readTail
  have quoted (noGaps : strict = true → none ∉ raw) :
      ∃ behind, written ++ some '"' :: after = behind ++ after ∧
        WritesString strict (some '"' :: behind) raw.lossy :=
    ⟨written ++ [some '"'], by simp, .quoted spells noGaps⟩
  simp only [RawText.text?_eq] at later
  by_cases gaps : none ∈ raw
  · rw [if_pos gaps] at later
    dsimp only at later
    split_ifs at later with strictly
    · cases later
    · cases later
      exact quoted fun isStrict => absurd isStrict strictly
  · rw [if_neg gaps] at later
    cases later
    exact quoted fun _ => gaps

end ProxyHistory.Json
