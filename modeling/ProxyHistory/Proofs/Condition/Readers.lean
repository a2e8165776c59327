import ProxyHistory.Proofs.Condition.Grammar

/-!
# The parts of a standard condition

What the readers of a standard condition find: a field, blanks, an operator and a remainder. The
operator is divided from the remainder in one of three ways, and a text is split into these parts
exactly if they make it up.
-/

namespace ProxyHistory.Condition

open Text (isBlank Blank)
open Query (isQuote)

/-! ## Characters -/

theorem of_isOperatorChar (holds : Char → Prop) (all : ∀ c ∈ "=!<>~".toList, holds c) {c : Char}
    (symbolic : isOperatorChar c) : holds c := by
  simp only [isOperatorChar, Bool.or_eq_true, beq_iff_eq, or_assoc] at symbolic
  rcases symbolic with rfl | rfl | rfl | rfl | rfl
  all_goals exact all _ (by decide)

theorem isBlank_of_isOperatorChar {c : Char} (symbolic : isOperatorChar c) : isBlank c = false :=
  of_isOperatorChar (isBlank · = false) (by decide) symbolic

theorem isBlank_of_isAlpha {c : Char} (letter : c.isAlpha) : isBlank c = false := by
  rw [Bool.eq_false_iff]
  intro blank
  have code := Text.mem_blankCodes blank
  rw [Text.isAlpha_iff] at letter
  simp only [Text.blankCodes, List.mem_cons, List.not_mem_nil, or_false] at code
  omega

/-! ## Runs and fields -/

theorem trimStart_of_stops {text : Text} (stops : Stops isBlank text) :
    Text.trimStart text = text := by
  have whole : ([] ++ text).dropWhile isBlank = text := dropWhile_run (by simp) stops
  exact whole

theorem stops_append {first rest : Text} (ne_nil : first ≠ [])
    (plain : ∀ c ∈ first, isBlank c = false) : Stops isBlank (first ++ rest) := by
  obtain ⟨c, others, rfl⟩ := List.exists_cons_of_ne_nil ne_nil
  intro d head
  obtain rfl := Option.some.inj head
  exact plain c (by simp)

theorem stops_dropWhile (test : Char → Bool) (text : Text) : Stops test (text.dropWhile test) := by
  intro c head
  have first := List.head?_dropWhile_not test text
  rw [head] at first
  exact first

theorem takeRun?_eq_some_iff {test : Char → Bool} {text run rest : Text} :
    takeRun? test text = some (run, rest) ↔
      run ≠ [] ∧ (∀ c ∈ run, test c) ∧ Stops test rest ∧ run ++ rest = text := by
  constructor
  · intro taken
    unfold takeRun? at taken
    split at taken
    · cases taken
    · rename_i ne_nil
      cases taken
      exact ⟨ne_nil, fun c member => List.mem_takeWhile_imp member, stops_dropWhile test text,
        List.takeWhile_append_dropWhile⟩
  · rintro ⟨ne_nil, holds, stops, rfl⟩
    exact takeRun?_append ne_nil holds stops

theorem isName_of_takeName? {text name rest : Text} (taken : takeName? text = some (name, rest)) :
    IsName name ∧ name ++ rest = text := by
  cases text with
  | nil => cases taken
  | cons c text =>
      rw [takeName?] at taken
      split at taken
      · rename_i starts
        cases taken
        refine ⟨⟨c, _, rfl, starts, fun d member => List.mem_takeWhile_imp member⟩, ?_⟩
        rw [List.cons_append, List.takeWhile_append_dropWhile]
      · cases taken

theorem isField_of_takeField? {text field rest : Text}
    (taken : takeField? text = some (field, rest)) : IsField field ∧ field ++ rest = text := by
  unfold takeField? at taken
  split at taken
  · cases taken
  · rename_i name after named
    obtain ⟨isName, rfl⟩ := isName_of_takeName? named
    split at taken
    · rename_i behind
      split at taken
      · rename_i member rest memberNamed
        obtain ⟨memberIsName, rfl⟩ := isName_of_takeName? memberNamed
        cases taken
        exact ⟨.member isName memberIsName, by simp⟩
      · cases taken
        exact ⟨.name isName, rfl⟩
    · cases taken
      exact ⟨.name isName, rfl⟩

/-- The text does not go on with a field, nor with the parenthesis behind a function. -/
def EndsField (text : Text) : Prop :=
  ∀ c ∈ text.head?, continuesName c = false ∧ c ≠ '.' ∧ c ≠ '('

theorem endsField_of_isBlank {c : Char} (blank : isBlank c) (rest : Text) :
    EndsField (c :: rest) := by
  rintro _ ⟨⟩
  refine ⟨continuesName_of_isBlank blank, ?_, ?_⟩
  · rintro rfl
    exact absurd blank (by decide)
  · rintro rfl
    exact absurd blank (by decide)

theorem EndsField.takeField?_eq {field rest : Text} (ends : EndsField rest)
    (isField : IsField field) : takeField? (field ++ rest) = some (field, rest) :=
  takeField?_append isField (fun c head => (ends c head).1) (fun c head => (ends c head).2.1)

theorem EndsField.eq_of_append_eq {first second firstRest secondRest : Text}
    (firstEnds : EndsField firstRest) (secondEnds : EndsField secondRest)
    (firstIsField : IsField first) (secondIsField : IsField second)
    (same : first ++ firstRest = second ++ secondRest) :
    first = second ∧ firstRest = secondRest := by
  have taken := firstEnds.takeField?_eq firstIsField
  rw [same, secondEnds.takeField?_eq secondIsField] at taken
  cases taken
  exact ⟨rfl, rfl⟩

/-! ## Operators -/

/-- A text with a character of its own behind the operator characters in front: neither the end
nor a blank nor a quote follows them. -/
def IsAttached (text : Text) : Prop :=
  ∃ c ∈ (text.dropWhile isOperatorChar).head?, isBlank c = false ∧ isQuote c = false

/-- The operator is the longest glued operator in front of what it makes up with the remainder. -/
def IsLongest (operator remainder : Text) : Prop :=
  operator ∈ gluedOperators ∧
    ∀ other ∈ gluedOperators, other <+: operator ++ remainder → other.length ≤ operator.length

/-- How an operator of a standard condition is divided from what stands before and behind it. -/
inductive Divides (before operator remainder : Text) : Prop
  /-- A run of operator characters ends the text, or stands in front of a blank or a quote. -/
  | symbol (ne_nil : operator ≠ []) (symbolic : ∀ c ∈ operator, isOperatorChar c)
      (ends : remainder = [] ∨ isSetOff remainder) : Divides before operator remainder
  /-- A run of operator characters that goes on as a value is divided behind the longest operator
  in front of it. -/
  | glued (longest : IsLongest operator remainder) (attached : IsAttached remainder)
      (oneLine : '\n' ∉ remainder) : Divides before operator remainder
  /-- Letters stand behind blanks and in front of a blank or a quote. -/
  | word (spaced : before ≠ []) (ne_nil : operator ≠ []) (letters : ∀ c ∈ operator, c.isAlpha)
      (setOff : isSetOff remainder) : Divides before operator remainder

section Readers

variable {field after : Text} {parts : Parts}

theorem stops_of_isSetOff {test : Char → Bool} (blanks : ∀ c, isBlank c → test c = false)
    (quotes : ∀ c, isQuote c → test c = false) {text : Text} (setOff : isSetOff text) :
    Stops test text := by
  cases text with
  | nil => exact nofun
  | cons c rest =>
      rintro _ ⟨⟩
      rw [isSetOff, Bool.and_eq_true, Bool.or_eq_true] at setOff
      exact setOff.1.elim (blanks c) (quotes c)

theorem isOperatorChar_of_isBlank (c : Char) (blank : isBlank c) : isOperatorChar c = false := by
  rw [Bool.eq_false_iff]
  intro symbolic
  rw [isBlank_of_isOperatorChar symbolic] at blank
  exact absurd blank (by decide)

theorem isOperatorChar_of_isQuote (c : Char) (quote : isQuote c) : isOperatorChar c = false := by
  rcases Query.eq_or_eq_of_isQuote quote with rfl | rfl
  all_goals decide

theorem isAlpha_of_isBlank (c : Char) (blank : isBlank c) : c.isAlpha = false := by
  rw [Bool.eq_false_iff]
  intro letter
  rw [isBlank_of_isAlpha letter] at blank
  exact absurd blank (by decide)

theorem isAlpha_of_isQuote (c : Char) (quote : isQuote c) : c.isAlpha = false := by
  rcases Query.eq_or_eq_of_isQuote quote with rfl | rfl
  all_goals decide

theorem symbolParts?_eq_some_iff :
    symbolParts? field after = some parts ↔
      parts.field = field ∧ parts.operator ≠ [] ∧ (∀ c ∈ parts.operator, isOperatorChar c) ∧
        (parts.remainder = [] ∨ isSetOff parts.remainder) ∧
        parts.operator ++ parts.remainder = Text.trimStart after := by
  obtain ⟨partsField, operator, remainder⟩ := parts
  constructor
  · intro read
    unfold symbolParts? at read
    split at read
    · rename_i run rest taken
      obtain ⟨ne_nil, symbolic, -, split⟩ := takeRun?_eq_some_iff.mp taken
      split at read
      · rename_i ends
        cases read
        rw [Bool.or_eq_true, List.isEmpty_iff] at ends
        exact ⟨rfl, ne_nil, symbolic, ends, split⟩
      · cases read
    · cases read
  · rintro ⟨rfl, ne_nil, symbolic, ends, split⟩
    have stops : Stops isOperatorChar remainder := by
      rcases ends with rfl | setOff
      · exact nofun
      · exact stops_of_isSetOff isOperatorChar_of_isBlank isOperatorChar_of_isQuote setOff
    have taken := takeRun?_eq_some_iff.mpr ⟨ne_nil, symbolic, stops, split⟩
    rw [symbolParts?, taken]
    simp only [Bool.or_eq_true, List.isEmpty_iff]
    rw [if_pos ends]

theorem singleton_prefix_iff {c : Char} {text : Text} : [c] <+: text ↔ text.head? = some c := by
  cases text <;> simp [eq_comm]

/-- A glued operator is the longest one unless an equals sign follows one that can go on so. -/
theorem isLongest_iff {operator remainder : Text} :
    IsLongest operator remainder ↔ operator ∈ gluedOperators ∧
      (operator = ">".toList ∨ operator = "<".toList → remainder.head? ≠ some '=') := by
  refine and_congr_right fun member => ?_
  simp only [gluedOperators, List.mem_cons, List.not_mem_nil, or_false] at member
  rcases member with rfl | rfl | rfl | rfl | rfl | rfl
  all_goals simp [gluedOperators, singleton_prefix_iff]

theorem find?_gluedOperators_iff {operator remainder : Text} :
    gluedOperators.find? (·.isPrefixOf (operator ++ remainder)) = some operator ↔
      IsLongest operator remainder := by
  constructor
  · intro found
    refine isLongest_iff.mpr ⟨List.mem_of_find?_eq_some found, ?_⟩
    rintro (rfl | rfl) head
    all_goals
      obtain ⟨rest, rfl⟩ := List.head?_eq_some_iff.mp head
      simp [gluedOperators] at found
  · intro longest
    obtain ⟨member, noEquals⟩ := isLongest_iff.mp longest
    have unextended (angle : operator = ">".toList ∨ operator = "<".toList) :
        ['='].isPrefixOf remainder = false := by
      rw [Bool.eq_false_iff, ne_eq, List.isPrefixOf_iff_prefix, singleton_prefix_iff]
      exact noEquals angle
    simp only [gluedOperators, List.mem_cons, List.not_mem_nil, or_false] at member
    rcases member with rfl | rfl | rfl | rfl | rfl | rfl
    all_goals simp [gluedOperators, unextended]

theorem gluedParts?_eq_some_iff :
    gluedParts? field after = some parts ↔
      parts.field = field ∧ IsLongest parts.operator parts.remainder ∧ '\n' ∉ parts.remainder ∧
        parts.operator ++ parts.remainder = Text.trimStart after := by
  obtain ⟨partsField, operator, remainder⟩ := parts
  constructor
  · intro read
    unfold gluedParts? at read
    dsimp only at read
    split at read
    · rename_i known found
      split at read
      · cases read
      · rename_i oneLine
        cases read
        have split := List.prefix_iff_eq_append.mp
          (List.isPrefixOf_iff_prefix.mp (List.find?_some found :))
        rw [← split] at found
        rw [List.contains_iff_mem] at oneLine
        exact ⟨rfl, find?_gluedOperators_iff.mp found, oneLine, split⟩
    · cases read
  · rintro ⟨rfl, longest, oneLine, split⟩
    have absent : ¬ remainder.contains '\n' = true := by rwa [List.contains_iff_mem]
    rw [gluedParts?, ← split, find?_gluedOperators_iff.mpr longest]
    dsimp only
    rw [List.drop_left, if_neg absent]

theorem wordParts?_eq_some_iff :
    wordParts? field after = some parts ↔
      (∃ c ∈ after.head?, isBlank c) ∧ parts.field = field ∧ parts.operator ≠ [] ∧
        (∀ c ∈ parts.operator, c.isAlpha) ∧ isSetOff parts.remainder ∧
        parts.operator ++ parts.remainder = Text.trimStart after := by
  obtain ⟨partsField, operator, remainder⟩ := parts
  have spaced : after.head?.any isBlank = true ↔ ∃ c ∈ after.head?, isBlank c := by
    cases after.head? <;> simp
  constructor
  · intro read
    unfold wordParts? at read
    split at read
    · rename_i blank
      split at read
      · rename_i run rest taken
        obtain ⟨ne_nil, letters, -, split⟩ := takeRun?_eq_some_iff.mp taken
        split at read
        · rename_i setOff
          cases read
          exact ⟨spaced.mp blank, rfl, ne_nil, letters, setOff, split⟩
        · cases read
      · cases read
    · cases read
  · rintro ⟨blank, rfl, ne_nil, letters, setOff, split⟩
    have stops : Stops Char.isAlpha remainder :=
      stops_of_isSetOff isAlpha_of_isBlank isAlpha_of_isQuote setOff
    have taken := takeRun?_eq_some_iff.mpr ⟨ne_nil, letters, stops, split⟩
    rw [wordParts?, if_pos (spaced.mpr blank), taken]
    simp only
    rw [if_pos setOff]

end Readers

/-! ## Standard conditions -/

theorem isSetOff_cons {c : Char} {rest : Text} :
    isSetOff (c :: rest) = true ↔ (isBlank c ∨ isQuote c) ∧ '\n' ∉ rest := by
  simp [isSetOff]

/-- In one line, a text is attached unless its operator characters are set off from the rest. -/
theorem isAttached_iff {text : Text} (oneLine : '\n' ∉ text) :
    IsAttached text ↔ ¬ (text.dropWhile isOperatorChar = [] ∨
      isSetOff (text.dropWhile isOperatorChar) = true) := by
  have rest_oneLine : '\n' ∉ text.dropWhile isOperatorChar :=
    fun member => oneLine ((List.dropWhile_suffix isOperatorChar).mem member)
  rw [IsAttached]
  cases rest : text.dropWhile isOperatorChar with
  | nil => simp
  | cons c others =>
      rw [rest, List.mem_cons, not_or] at rest_oneLine
      simp [isSetOff_cons, rest_oneLine.2]

theorem symbolParts?_eq_none_iff (field : Text) {after operator remainder : Text}
    (ne_nil : operator ≠ []) (symbolic : ∀ c ∈ operator, isOperatorChar c)
    (oneLine : '\n' ∉ remainder) (split : operator ++ remainder = Text.trimStart after) :
    symbolParts? field after = none ↔ IsAttached remainder := by
  have taken : takeRun? isOperatorChar (Text.trimStart after) =
      some (operator ++ remainder.takeWhile isOperatorChar,
        remainder.dropWhile isOperatorChar) := by
    refine takeRun?_eq_some_iff.mpr ⟨by simp [ne_nil], ?_, stops_dropWhile _ _, ?_⟩
    · intro c member
      exact (List.mem_append.mp member).elim (symbolic c) List.mem_takeWhile_imp
    · rw [List.append_assoc, List.takeWhile_append_dropWhile, split]
  rw [isAttached_iff oneLine, symbolParts?, taken]
  simp

theorem symbolic_of_mem {operator : Text} (known : operator ∈ gluedOperators) :
    operator ≠ [] ∧ ∀ c ∈ operator, isOperatorChar c := by
  have all : ∀ operator ∈ gluedOperators, operator ≠ [] ∧ ∀ c ∈ operator, isOperatorChar c := by
    decide
  exact all operator known

theorem IsLongest.symbolic {operator remainder : Text} (longest : IsLongest operator remainder) :
    operator ≠ [] ∧ ∀ c ∈ operator, isOperatorChar c :=
  symbolic_of_mem longest.1

section Divides

variable {field before operator remainder : Text} (blank : Blank before)
  (divides : Divides before operator remainder)

include divides

theorem Divides.marks : operator ≠ [] ∧ ((∀ c ∈ operator, isOperatorChar c) ∨
    before ≠ [] ∧ ∀ c ∈ operator, c.isAlpha) := by
  cases divides with
  | symbol ne_nil symbolic ends => exact ⟨ne_nil, .inl symbolic⟩
  | glued longest attached oneLine => exact ⟨longest.symbolic.1, .inl longest.symbolic.2⟩
  | word spaced ne_nil letters setOff => exact ⟨ne_nil, .inr ⟨spaced, letters⟩⟩

theorem Divides.unbroken : ∀ c ∈ operator, isBlank c = false := by
  intro c member
  rcases divides.marks.2 with symbolic | ⟨-, letters⟩
  · exact isBlank_of_isOperatorChar (symbolic c member)
  · exact isBlank_of_isAlpha (letters c member)

/-- A line feed can only be the blank that sets a remainder off. -/
theorem Divides.oneLine : '\n' ∉ remainder.tail := by
  have setOff_oneLine (setOff : isSetOff remainder) : '\n' ∉ remainder.tail := by
    cases remainder with
    | nil => exact List.not_mem_nil
    | cons c rest => exact (isSetOff_cons.mp setOff).2
  cases divides with
  | symbol ne_nil symbolic ends =>
      rcases ends with rfl | setOff
      · exact List.not_mem_nil
      · exact setOff_oneLine setOff
  | glued longest attached oneLine => exact fun member => oneLine (List.mem_of_mem_tail member)
  | word spaced ne_nil letters setOff => exact setOff_oneLine setOff

include blank

theorem Divides.trimStart_eq :
    Text.trimStart (before ++ (operator ++ remainder)) = operator ++ remainder := by
  rw [Text.trimStart_append_blank blank]
  exact trimStart_of_stops (stops_append divides.marks.1 divides.unbroken)

theorem Divides.endsField : EndsField (before ++ (operator ++ remainder)) := by
  cases before with
  | cons first rest => exact endsField_of_isBlank (Text.Blank.of_mem blank).1 _
  | nil =>
      obtain ⟨ne_nil, symbolic | ⟨spaced, -⟩⟩ := divides.marks
      · obtain ⟨first, rest, rfl⟩ := List.exists_cons_of_ne_nil ne_nil
        rintro _ ⟨⟩
        exact of_isOperatorChar (fun c => continuesName c = false ∧ c ≠ '.' ∧ c ≠ '(') (by decide)
          (symbolic first List.mem_cons_self)
      · exact absurd rfl spaced

/-- The readers, one after the other, find the operator and what stands behind it. -/
theorem Divides.read (field : Text) :
    (symbolParts? field (before ++ (operator ++ remainder))).or
      ((gluedParts? field (before ++ (operator ++ remainder))).or
        (wordParts? field (before ++ (operator ++ remainder)))) =
      some ⟨field, operator, remainder⟩ := by
  have starts := divides.trimStart_eq blank
  have spacedHead (spaced : before ≠ []) :
      ∃ c ∈ (before ++ (operator ++ remainder)).head?, isBlank c := by
    obtain ⟨first, rest, rfl⟩ := List.exists_cons_of_ne_nil spaced
    exact ⟨first, rfl, (Text.Blank.of_mem blank).1⟩
  generalize before ++ (operator ++ remainder) = after at starts spacedHead ⊢
  cases divides with
  | symbol ne_nil symbolic ends =>
      have read : symbolParts? field after = some ⟨field, operator, remainder⟩ :=
        symbolParts?_eq_some_iff.mpr ⟨rfl, ne_nil, symbolic, ends, starts.symm⟩
      rw [read, Option.some_or]
  | glued longest attached oneLine =>
      have noSymbol : symbolParts? field after = none :=
        (symbolParts?_eq_none_iff field longest.symbolic.1 longest.symbolic.2 oneLine
          starts.symm).mpr attached
      have read : gluedParts? field after = some ⟨field, operator, remainder⟩ :=
        gluedParts?_eq_some_iff.mpr ⟨rfl, longest, oneLine, starts.symm⟩
      rw [noSymbol, read, Option.none_or, Option.some_or]
  | word spaced ne_nil letters setOff =>
      -- No operator character stands in front, so the first two readers find nothing.
      have different {other rest : Text} (other_ne_nil : other ≠ [])
          (symbolic : ∀ c ∈ other, isOperatorChar c)
          (split : other ++ rest = Text.trimStart after) : False := by
        rw [starts] at split
        obtain ⟨mark, others, rfl⟩ := List.exists_cons_of_ne_nil other_ne_nil
        obtain ⟨letter, letters', rfl⟩ := List.exists_cons_of_ne_nil ne_nil
        obtain rfl : mark = letter := (List.cons.inj split).1
        have noLetter := of_isOperatorChar (fun c => c.isAlpha = false) (by decide)
          (symbolic mark List.mem_cons_self)
        rw [letters mark List.mem_cons_self] at noLetter
        contradiction
      have noSymbol : symbolParts? field after = none := by
        rw [Option.eq_none_iff_forall_ne_some]
        intro parts read
        obtain ⟨-, other_ne_nil, symbolic, -, split⟩ := symbolParts?_eq_some_iff.mp read
        exact different other_ne_nil symbolic split
      have noGlued : gluedParts? field after = none := by
        rw [Option.eq_none_iff_forall_ne_some]
        intro parts read
        obtain ⟨-, longest, -, split⟩ := gluedParts?_eq_some_iff.mp read
        exact different longest.symbolic.1 longest.symbolic.2 split
      have read : wordParts? field after = some ⟨field, operator, remainder⟩ :=
        wordParts?_eq_some_iff.mpr
          ⟨spacedHead spaced, rfl, ne_nil, letters, setOff, starts.symm⟩
      rw [noSymbol, noGlued, read, Option.none_or, Option.none_or]

end Divides

/-- A standard condition is split into a field, an operator and a remainder exactly if they make it
up, with blanks in front of the operator. -/
theorem standardParts?_eq_some_iff {text : Text} {parts : Parts} :
    standardParts? text = some parts ↔
      ∃ before, Blank before ∧ IsField parts.field ∧
        Divides before parts.operator parts.remainder ∧
        parts.field ++ (before ++ (parts.operator ++ parts.remainder)) = text := by
  constructor
  · intro read
    unfold standardParts? at read
    split at read
    · cases read
    · rename_i field after taken
      obtain ⟨isField, rfl⟩ := isField_of_takeField? taken
      have blank : Blank (after.takeWhile isBlank) := fun c member => List.mem_takeWhile_imp member
      have whole : after.takeWhile isBlank ++ Text.trimStart after = after :=
        List.takeWhile_append_dropWhile
      refine ⟨after.takeWhile isBlank, blank, ?_⟩
      rw [Option.or_eq_some_iff, Option.or_eq_some_iff] at read
      rcases read with symbolic | ⟨noSymbol, glued | ⟨-, word⟩⟩
      · obtain ⟨rfl, ne_nil, symbolic, ends, split⟩ := symbolParts?_eq_some_iff.mp symbolic
        exact ⟨isField, .symbol ne_nil symbolic ends, by rw [split, whole]⟩
      · obtain ⟨rfl, longest, oneLine, split⟩ := gluedParts?_eq_some_iff.mp glued
        have attached := (symbolParts?_eq_none_iff _ longest.symbolic.1 longest.symbolic.2 oneLine
          split).mp noSymbol
        exact ⟨isField, .glued longest attached oneLine, by rw [split, whole]⟩
      · obtain ⟨⟨c, head, blankHead⟩, rfl, ne_nil, letters, setOff, split⟩ :=
          wordParts?_eq_some_iff.mp word
        obtain ⟨rest, rfl⟩ := List.head?_eq_some_iff.mp head
        exact ⟨isField, .word (by simp [blankHead]) ne_nil letters setOff, by rw [split, whole]⟩
  · obtain ⟨field, operator, remainder⟩ := parts
    rintro ⟨before, blank, isField, divides, rfl⟩
    rw [standardParts?, (divides.endsField blank).takeField?_eq isField]
    exact divides.read blank field

/-- A text that opens like a condition on a length starts with a name and a parenthesis. -/
theorem exists_of_lengthOpening {text : Text}
    (same : Text.sameIgnoringCase (text.take lengthOpening.length) lengthOpening = true) :
    ∃ name rest, IsName name ∧ text = name ++ '(' :: rest := by
  have letter {c lowered : Char} (lower : c.toLower = lowered) (isLetter : lowered.isAlpha) :
      startsName c := by
    rw [startsName, Bool.or_eq_true]
    exact .inl ((Text.isAlpha_toLower c).mp (lower ▸ isLetter))
  have lowered : (text.take lengthOpening.length).map Char.toLower = ['l', 'e', 'n', '('] :=
    Text.sameIgnoringCase_iff.mp same
  obtain ⟨first, _, front, firstLower, lowered⟩ := List.map_eq_cons_iff.mp lowered
  obtain ⟨second, _, rfl, secondLower, lowered⟩ := List.map_eq_cons_iff.mp lowered
  obtain ⟨third, _, rfl, thirdLower, lowered⟩ := List.map_eq_cons_iff.mp lowered
  obtain ⟨bracket, _, rfl, bracketLower, lowered⟩ := List.map_eq_cons_iff.mp lowered
  have bracket_eq : bracket = '(' := by
    rw [← Char.toNat_inj, Text.toNat_toLower, show '('.toNat = 40 from rfl] at bracketLower
    rw [← Char.toNat_inj, show '('.toNat = 40 from rfl]
    split at bracketLower <;> omega
  refine ⟨[first, second, third], text.drop lengthOpening.length,
    ⟨first, [second, third], rfl, letter firstLower (by decide), ?_⟩, ?_⟩
  · simp [continuesName_of_startsName (letter secondLower (by decide)),
      continuesName_of_startsName (letter thirdLower (by decide))]
  · rw [List.map_eq_nil_iff.mp lowered, bracket_eq] at front
    calc
      text = text.take lengthOpening.length ++ text.drop lengthOpening.length :=
        (List.take_append_drop ..).symm
      _ = [first, second, third] ++ '(' :: text.drop lengthOpening.length := by rw [front]; rfl

/-- A condition on a length does not start with a field and what ends it. -/
theorem EndsField.lengthParts?_eq_none {field rest : Text} (ends : EndsField rest)
    (isField : IsField field) : lengthParts? (field ++ rest) = none := by
  rw [lengthParts?, if_neg]
  intro same
  obtain ⟨name, inner, isName, split⟩ := exists_of_lengthOpening same
  have asName : takeField? (name ++ '(' :: inner) = some (name, '(' :: inner) :=
    takeField?_append (.name isName) (by rintro _ ⟨⟩; decide) (by rintro _ ⟨⟩; decide)
  have asField := ends.takeField?_eq isField
  rw [split, asName] at asField
  cases asField
  exact (ends '(' rfl).2.2 rfl

theorem parse_of_standardParts? {fragment : Text} {parts : Parts}
    (read : standardParts? (Text.trim fragment) = some parts) :
    parse fragment = ofStandardParts parts := by
  obtain ⟨before, blank, isField, divides, split⟩ := standardParts?_eq_some_iff.mp read
  have noLength := (divides.endsField blank).lengthParts?_eq_none isField
  rw [parse, ← split, noLength, split, read]

end ProxyHistory.Condition
