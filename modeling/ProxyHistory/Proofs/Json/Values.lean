import ProxyHistory.Proofs.Json.Parts

/-!
# JSON values are read exactly

What is read as a value is one of its written forms, and each of them is read as the value, whatever
stands behind it that cannot continue a number. In an array that was parsed no name stands twice in
an item.
-/

namespace ProxyHistory.Json

/-! ## Tokens -/

theorem skipSpace_skipSpace (text : RawText) : skipSpace (skipSpace text) = skipSpace text :=
  List.dropWhile_idempotent _ text

theorem eq_of_readWord {word : Text} {text rest : RawText}
    (read : readWord word text = .ok ((), rest)) : text = word.raw ++ rest := by
  induction word generalizing text with
  | nil =>
      cases read
      rfl
  | cons c word induction =>
      cases text with
      | nil => cases read
      | cons c? text =>
          rw [readWord] at read
          split_ifs at read with same
          · rw [same, induction read, Text.raw_cons, List.cons_append]
          · cases read

/-! ## Values -/

section Values

variable {strict : Bool} {readPart? : Option (Reader Json)}
  {WritesPart? : Option (RawText → Json → Prop)}

theorem readValueWith_skips (text : RawText) :
    readValueWith strict readPart? (skipSpace text) = readValueWith strict readPart? text := by
  rw [readValueWith, readValueWith, skipSpace_skipSpace]

theorem readValueWith_number {negative : Bool} {written : Text} {numeral : Numeral}
    (writes : WritesNumeral written numeral) (rest : RawText) :
    readValueWith strict readPart? (Text.raw (sign negative ++ written) ++ rest) =
      readNumber strict negative (written.raw ++ rest) := by
  cases negative with
  | true =>
      rw [readValueWith, sign, if_pos rfl, List.singleton_append, Text.raw_cons, List.cons_append,
        skipSpace_of_solid (by decide)]
      rfl
  | false =>
      obtain ⟨c, more, rfl, digit⟩ := writes.exists_cons
      have solid := (solid_leads (.integer 0) c (mem_leads_of_isDigit digit)).1
      rw [readValueWith, sign, if_neg Bool.false_ne_true, List.nil_append, Text.raw_cons,
        List.cons_append, skipSpace_of_solid solid]
      dsimp only
      split
      case h_8 => rw [if_pos digit]
      all_goals exact absurd digit (by decide)

/-- A value is read from each of its written forms if its parts are. -/
theorem WritesValueWith.readValueWith (exact : Option.Rel IsExact readPart? WritesPart?)
    {part : RawText} {value : Json} (writes : WritesValueWith strict WritesPart? part value)
    {rest : RawText} (stops : StopsNumber rest) :
    readValueWith strict readPart? (part ++ rest) = .ok (value, rest) := by
  cases writes with
  | null => rfl
  | isTrue => rfl
  | isFalse => rfl
  | number negative writes valued =>
      rw [readValueWith_number writes]
      exact readNumber_append writes valued stops
  | string writes =>
      obtain ⟨behind, rfl, reads⟩ := writes.readString
      rw [List.cons_append, Json.readValueWith, skipSpace_of_solid (by decide)]
      simp only [reads, bind, Except.bind]
      rfl
  | array nests writes =>
      subst nests
      cases exact with
      | some exact =>
          obtain ⟨behind, rfl, reads⟩ := exact.readItems writes
          rw [List.cons_append, Json.readValueWith, skipSpace_of_solid (by decide)]
          simp only [reads, bind, Except.bind]
          rfl
  | object nests writes =>
      subst nests
      cases exact with
      | some exact =>
          obtain ⟨behind, rfl, reads⟩ := exact.readMembers writes
          rw [List.cons_append, Json.readValueWith, skipSpace_of_solid (by decide)]
          simp only [reads, bind, Except.bind]
          rfl

/-- What is read as a value is one of its written forms if that holds of its parts. -/
theorem writesValueWith_of_readValueWith (exact : Option.Rel IsExact readPart? WritesPart?)
    {text rest : RawText} {value : Json}
    (read : readValueWith strict readPart? text = .ok (value, rest)) :
    StartsWith (WritesValueWith strict WritesPart?) text value rest := by
  refine startsWith_of_skips ?_
  have word {c : Char} {word : Text} {behind : RawText} {value : Json}
      (writes : WritesValueWith strict WritesPart? (Text.raw (c :: word)) value)
      (found : readWord word behind = .ok ((), rest)) :
      StartsWith (WritesValueWith strict WritesPart?) (some c :: behind) value rest := by
    rw [eq_of_readWord found]
    exact .behind gap_nil writes rest
  have number {negative : Bool} {behind : RawText} {value : Json}
      (found : readNumber strict negative behind = .ok (value, rest)) :
      StartsWith (WritesValueWith strict WritesPart?) ((sign negative).raw ++ behind) value rest := by
    obtain ⟨written, numeral, rfl, writes, valued⟩ := writesNumeral_of_readNumber found
    rw [← List.append_assoc, ← Text.raw_append]
    exact .behind gap_nil (.number negative writes valued) rest
  unfold readValueWith at read
  split at read
  · cases read
  · cases read
  · rename_i c behind skipped
    rw [skipped]
    split at read
    case h_1 =>
      obtain ⟨⟨⟨⟩, after⟩, found, later⟩ := exists_of_bind_eq_ok read
      cases later
      exact word .null found
    case h_2 =>
      obtain ⟨⟨⟨⟩, after⟩, found, later⟩ := exists_of_bind_eq_ok read
      cases later
      exact word .isTrue found
    case h_3 =>
      obtain ⟨⟨⟨⟩, after⟩, found, later⟩ := exists_of_bind_eq_ok read
      cases later
      exact word .isFalse found
    case h_4 => exact @number true _ _ read
    case h_5 =>
      obtain ⟨⟨text, after⟩, found, later⟩ := exists_of_bind_eq_ok read
      cases later
      obtain ⟨quoted, rfl, writes⟩ := writesString_of_readString found
      rw [← List.cons_append]
      exact .behind gap_nil (WritesValueWith.string writes) rest
    case h_6 =>
      split at read
      · cases read
      · obtain ⟨⟨items, after⟩, found, later⟩ := exists_of_bind_eq_ok read
        cases later
        cases exact with
        | some exact =>
            obtain ⟨part, same, writes⟩ := exact.writesList found
            rw [same]
            exact .behind gap_nil (.array rfl writes) rest
    case h_7 =>
      split at read
      · cases read
      · obtain ⟨⟨members, after⟩, found, later⟩ := exists_of_bind_eq_ok read
        cases later
        cases exact with
        | some exact =>
            obtain ⟨part, same, writes⟩ := exact.writesObject found
            rw [same]
            exact .behind gap_nil (.object rfl writes) rest
    case h_8 =>
      split_ifs at read
      · exact @number false _ _ read
      · cases read

end Values

/-- A reader of values takes exactly what is written of them. -/
theorem isExact_readValue (strict : Bool) (depth : Nat) :
    IsExact (readValue strict depth) (WritesValue strict depth) := by
  induction depth with
  | zero =>
      exact ⟨WritesValueWith.isSolid, readValueWith_skips,
        fun writes rest stops => writes.readValueWith .none stops,
        writesValueWith_of_readValueWith .none⟩
  | succ depth induction =>
      exact ⟨WritesValueWith.isSolid, readValueWith_skips,
        fun writes rest stops => writes.readValueWith (.some induction) stops,
        writesValueWith_of_readValueWith (.some induction)⟩

end ProxyHistory.Json
