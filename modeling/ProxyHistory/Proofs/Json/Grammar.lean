import Mathlib.Data.List.Forall2
import ProxyHistory.Proofs.Json.Numbers
import ProxyHistory.Proofs.Json.Strings

/-!
# The grammar of JSON

Which texts are values, said without a reader. Space may stand around every token, and commas stand
between the parts of a list or of an object. A value nests no deeper than a given depth. In the
lenient way of writing a number may be out of range, and then stands for nothing.
-/

namespace ProxyHistory.Json

/-! ## Lists and objects -/

/-- The text is space, or empty. -/
def Gap (text : RawText) : Prop :=
  ∀ c? ∈ text, c?.any isSpace = true

/-- The text stands in front of a part: space, with a comma in it unless the part is the first. -/
inductive Separates : Bool → RawText → Prop
  | first {gap : RawText} (isGap : Gap gap) : Separates true gap
  | next {before behind : RawText} (isGap : Gap before) (isGapBehind : Gap behind) :
      Separates false (before ++ some ',' :: behind)

/-- The text is made up of the parts, of which the first is the first of all or comes after
others. -/
inductive Lists : Bool → List RawText → RawText → Prop
  | nil (first : Bool) {gap : RawText} (isGap : Gap gap) : Lists first [] gap
  | cons {first : Bool} {between part written : RawText} {parts : List RawText}
      (separates : Separates first between) (later : Lists false parts written) :
      Lists first (part :: parts) (between ++ (part ++ written))

/-- The text is a list of the items in brackets. -/
inductive WritesList {α : Type} (Writes : RawText → α → Prop) : RawText → List α → Prop
  | brackets {parts : List RawText} {inside : RawText} {items : List α}
      (lists : Lists true parts inside) (each : List.Forall₂ Writes parts items) :
      WritesList Writes (some '[' :: (inside ++ [some ']'])) items

/-- The text is a member: a name, a colon and a value. What may be written for the value can depend
on the name. -/
inductive WritesMember {α : Type} (strict : Bool) (Writes : Text → RawText → α → Prop) :
    RawText → Text × α → Prop
  | pair {named before behind part : RawText} {name : Text} {value : α}
      (writesName : WritesString strict named name) (isGap : Gap before) (isGapBehind : Gap behind)
      (writesValue : Writes name part value) :
      WritesMember strict Writes (named ++ (before ++ some ':' :: (behind ++ part))) (name, value)

/-- The text is an object of the members in braces. -/
inductive WritesObject {α : Type} (strict : Bool) (Writes : Text → RawText → α → Prop) :
    RawText → List (Text × α) → Prop
  | braces {parts : List RawText} {inside : RawText} {members : List (Text × α)}
      (lists : Lists true parts inside)
      (each : List.Forall₂ (WritesMember strict Writes) parts members) :
      WritesObject strict Writes (some '\x7b' :: (inside ++ [some '\x7d'])) members

/-! ## Values -/

/-- The text is the value, whose parts, if it may have any, are written as described. -/
inductive WritesValueWith (strict : Bool) (WritesPart? : Option (RawText → Json → Prop)) :
    RawText → Json → Prop
  | null : WritesValueWith strict WritesPart? (Text.raw "null".toList) .null
  | isTrue : WritesValueWith strict WritesPart? (Text.raw "true".toList) (.bool true)
  | isFalse : WritesValueWith strict WritesPart? (Text.raw "false".toList) (.bool false)
  | number {written : Text} {numeral : Numeral} {value : Json} (negative : Bool)
      (writes : WritesNumeral written numeral)
      (valued : numberValue? strict negative numeral = some value) :
      WritesValueWith strict WritesPart? (Text.raw (sign negative ++ written)) value
  | string {part : RawText} {text : Text} (writes : WritesString strict part text) :
      WritesValueWith strict WritesPart? part (.string text)
  | array {WritesPart : RawText → Json → Prop} {part : RawText} {items : List Json}
      (nests : WritesPart? = some WritesPart) (writes : WritesList WritesPart part items) :
      WritesValueWith strict WritesPart? part (.array items)
  | object {WritesPart : RawText → Json → Prop} {part : RawText} {members : List (Text × Json)}
      (nests : WritesPart? = some WritesPart)
      (writes : WritesObject strict (fun _ => WritesPart) part members) :
      WritesValueWith strict WritesPart? part (ofMembers members)

/-- The text is the value, and nests no deeper than the given depth. -/
def WritesValue (strict : Bool) : Nat → RawText → Json → Prop
  | 0 => WritesValueWith strict none
  | depth + 1 => WritesValueWith strict (some (WritesValue strict depth))

/-- The text starts with space and what is written of a value, and goes on with the rest. -/
inductive StartsWith {α : Type} (Writes : RawText → α → Prop) : RawText → α → RawText → Prop
  | behind {gap part : RawText} {value : α} (isGap : Gap gap) (writes : Writes part value)
      (rest : RawText) : StartsWith Writes (gap ++ (part ++ rest)) value rest

/-! ## Space -/

theorem gap_nil : Gap [] :=
  List.forall_mem_nil _

theorem Gap.append {first second : RawText} (before : Gap first) (after : Gap second) :
    Gap (first ++ second) :=
  List.forall_mem_append.mpr ⟨before, after⟩

theorem Separates.append_gap {first : Bool} {between gap : RawText}
    (separates : Separates first between) (isGap : Gap gap) : Separates first (between ++ gap) := by
  cases separates with
  | first isFirst => exact .first (isFirst.append isGap)
  | next before behind =>
      rw [List.append_assoc, List.cons_append]
      exact .next before (behind.append isGap)

theorem skipSpace_gap {gap : RawText} (isGap : Gap gap) (rest : RawText) :
    skipSpace (gap ++ rest) = skipSpace rest :=
  List.dropWhile_append_of_pos isGap

theorem exists_skipSpace_eq (text : RawText) : ∃ gap, Gap gap ∧ text = gap ++ skipSpace text :=
  ⟨_, fun _ member => List.mem_takeWhile_imp member, List.takeWhile_append_dropWhile.symm⟩

theorem skipSpace_of_solid {c : Char} (solid : isSpace c = false) (rest : RawText) :
    skipSpace (some c :: rest) = some c :: rest :=
  List.dropWhile_cons_of_neg (by simp [solid])

/-! ## First characters -/

/-- The characters that a number may start with. -/
def numberLeads : Text := "-0123456789".toList

/-- The characters that a value may start with. -/
def leads : Json → Text
  | .null => ['n']
  | .bool true => ['t']
  | .bool false => ['f']
  | .integer _ | .real _ => numberLeads
  | .string _ => ['"']
  | .array _ => ['[']
  | .object _ => ['\x7b']

/-- A text starts neither with space nor with what ends a list. -/
def IsSolid (part : RawText) : Prop :=
  ∃ c rest, part = some c :: rest ∧ isSpace c = false ∧ c ≠ ']'

theorem IsSolid.ne_nil {part : RawText} (solid : IsSolid part) : part ≠ [] := by
  obtain ⟨c, rest, rfl, -⟩ := solid
  exact List.cons_ne_nil _ _

theorem IsSolid.skipSpace {part : RawText} (solid : IsSolid part) (rest : RawText) :
    skipSpace (part ++ rest) = part ++ rest := by
  obtain ⟨c, more, rfl, noSpace, -⟩ := solid
  exact skipSpace_of_solid noSpace _

theorem mem_leads_of_isDigit {c : Char} (digit : c.isDigit = true) : c ∈ numberLeads := by
  rw [Char.isDigit_iff_toNat, show '0'.toNat = 48 from rfl, show '9'.toNat = 57 from rfl] at digit
  have all : ∀ code < 58, 48 ≤ code → Char.ofNat code ∈ numberLeads := by decide
  have here := all c.toNat (by omega) digit.1
  rwa [Char.ofNat_toNat] at here

/-- No value starts with space or with what ends a list. -/
theorem solid_leads (value : Json) : ∀ c ∈ leads value, isSpace c = false ∧ c ≠ ']' := by
  have inNumbers : ∀ c ∈ numberLeads, isSpace c = false ∧ c ≠ ']' := by decide
  cases value with
  | integer | real => exact inNumbers
  | bool value =>
      cases value <;> simp only [leads, List.forall_mem_singleton] <;> decide
  | null | string | array | object =>
      simp only [leads, List.forall_mem_singleton]
      decide

theorem WritesNumeral.exists_lead {written : Text} {numeral : Numeral}
    (writes : WritesNumeral written numeral) (negative : Bool) :
    ∃ c ∈ numberLeads, ∃ rest, Text.raw (sign negative ++ written) = some c :: rest := by
  cases negative with
  | true => exact ⟨'-', by decide, _, rfl⟩
  | false =>
      obtain ⟨c, rest, written_eq, digit⟩ := writes.exists_cons
      exact ⟨c, mem_leads_of_isDigit digit, Text.raw rest, by rw [written_eq]; rfl⟩

theorem WritesString.exists_cons {strict : Bool} {part : RawText} {text : Text}
    (writes : WritesString strict part text) : ∃ rest, part = some '"' :: rest := by
  obtain ⟨-, -⟩ := writes
  exact ⟨_, rfl⟩

section Leads

variable {strict : Bool} {WritesPart? : Option (RawText → Json → Prop)} {part : RawText}
  {value : Json}

/-- A value starts with a character of its kind, but for a number that is out of range. -/
theorem WritesValueWith.exists_lead (writes : WritesValueWith strict WritesPart? part value) :
    ∃ c rest, part = some c :: rest ∧ (c ∈ leads value ∨ (strict = false ∧ c ∈ numberLeads)) := by
  cases writes with
  | null => exact ⟨'n', _, rfl, .inl (List.mem_singleton_self 'n')⟩
  | isTrue => exact ⟨'t', _, rfl, .inl (List.mem_singleton_self 't')⟩
  | isFalse => exact ⟨'f', _, rfl, .inl (List.mem_singleton_self 'f')⟩
  | number negative writes valued =>
      obtain ⟨c, lead, rest, same⟩ := writes.exists_lead negative
      refine ⟨c, rest, same, ?_⟩
      cases strict with
      | false => exact .inr ⟨rfl, lead⟩
      | true =>
          rcases kind_of_numberValue? valued with ⟨number, rfl⟩ | ⟨number, rfl⟩
          · exact .inl lead
          · exact .inl lead
  | string writes =>
      obtain ⟨rest, same⟩ := writes.exists_cons
      exact ⟨'"', rest, same, .inl (List.mem_singleton_self '"')⟩
  | array nests writes =>
      obtain ⟨-, -⟩ := writes
      exact ⟨'[', _, rfl, .inl (List.mem_singleton_self '[')⟩
  | object nests writes =>
      obtain ⟨-, -⟩ := writes
      exact ⟨'\x7b', _, rfl, .inl (List.mem_singleton_self '\x7b')⟩

theorem WritesValueWith.isSolid (writes : WritesValueWith strict WritesPart? part value) :
    IsSolid part := by
  obtain ⟨c, rest, same, lead | ⟨-, lead⟩⟩ := writes.exists_lead
  · exact ⟨c, rest, same, solid_leads value c lead⟩
  · exact ⟨c, rest, same, solid_leads (.integer 0) c lead⟩

theorem WritesMember.isSolid {α : Type} {Writes : Text → RawText → α → Prop} {member : Text × α}
    (writes : WritesMember strict Writes part member) : IsSolid part := by
  obtain ⟨writesName, -, -, -⟩ := writes
  obtain ⟨rest, rfl⟩ := writesName.exists_cons
  exact ⟨'"', _, rfl, by decide, by decide⟩

end Leads

theorem exists_writesValue_eq (strict : Bool) (depth : Nat) :
    ∃ WritesPart?, WritesValue strict depth = WritesValueWith strict WritesPart? := by
  cases depth with
  | zero => exact ⟨none, rfl⟩
  | succ depth => exact ⟨some (WritesValue strict depth), rfl⟩

theorem WritesValue.isSolid {strict : Bool} {depth : Nat} {part : RawText} {value : Json}
    (writes : WritesValue strict depth part value) : IsSolid part := by
  obtain ⟨WritesPart?, same⟩ := exists_writesValue_eq strict depth
  rw [same] at writes
  exact WritesValueWith.isSolid writes

/-- A value that is read in the strict way starts with a character of its kind. -/
theorem WritesValue.exists_lead {depth : Nat} {part : RawText} {value : Json}
    (writes : WritesValue true depth part value) :
    ∃ c ∈ leads value, ∃ rest, part = some c :: rest := by
  obtain ⟨WritesPart?, same⟩ := exists_writesValue_eq true depth
  rw [same] at writes
  obtain ⟨c, rest, part_eq, lead | ⟨absurd, -⟩⟩ := WritesValueWith.exists_lead writes
  · exact ⟨c, lead, rest, part_eq⟩
  · cases absurd

/-! ## Lengths -/

theorem Lists.length_le {first : Bool} {parts : List RawText} {inside : RawText}
    (lists : Lists first parts inside) (solid : ∀ part ∈ parts, part ≠ []) :
    parts.length ≤ inside.length := by
  induction lists with
  | nil => exact Nat.zero_le _
  | cons separates later induction =>
      obtain ⟨here, others⟩ := List.forall_mem_cons.mp solid
      have shorter := induction others
      have pos := List.length_pos_iff.mpr here
      simp only [List.length_append, List.length_cons]
      omega

/-- There are no more parts than characters where each part stands for an item. -/
theorem Lists.length_le_of_forall₂ {α : Type} {Writes : RawText → α → Prop} {first : Bool}
    {parts : List RawText} {inside : RawText} {items : List α} (lists : Lists first parts inside)
    (each : List.Forall₂ Writes parts items)
    (solid : ∀ part item, Writes part item → IsSolid part) : parts.length ≤ inside.length := by
  refine lists.length_le fun part member => ?_
  have all : List.Forall₂ (fun part item => IsSolid part ∧ Writes part item) parts items :=
    each.imp fun part item writes => ⟨solid part item writes, writes⟩
  exact (((List.forall₂_and_left parts items).mp all).1 part member).ne_nil

theorem Lists.length_le_of_mem {first : Bool} {parts : List RawText} {inside : RawText}
    (lists : Lists first parts inside) : ∀ part ∈ parts, part.length ≤ inside.length := by
  induction lists with
  | nil => exact List.forall_mem_nil _
  | cons separates later induction =>
      refine List.forall_mem_cons.mpr ⟨?_, fun part member => ?_⟩
      · simp only [List.length_append]
        omega
      · have shorter := induction part member
        simp only [List.length_append]
        omega

theorem WritesList.imp {α : Type} {Writes Other : RawText → α → Prop} {part : RawText}
    {items : List α} (writes : WritesList Writes part items)
    (imp : ∀ inner item, inner.length + 2 ≤ part.length → Writes inner item → Other inner item) :
    WritesList Other part items := by
  obtain @⟨parts, inside, _, lists, each⟩ := writes
  have shorter : ∀ inner ∈ parts,
      inner.length + 2 ≤ (some '[' :: (inside ++ [some ']'])).length := by
    intro inner member
    have bound := lists.length_le_of_mem inner member
    simpa using bound
  exact .brackets lists (((List.forall₂_and_left parts _).mpr ⟨shorter, each⟩).imp
    fun inner item both => imp inner item both.1 both.2)

theorem WritesMember.imp {α : Type} {strict : Bool} {Writes Other : Text → RawText → α → Prop}
    {part : RawText} {member : Text × α} (writes : WritesMember strict Writes part member)
    (imp : ∀ name inner value, inner.length ≤ part.length → Writes name inner value →
      Other name inner value) : WritesMember strict Other part member := by
  obtain ⟨writesName, isGap, isGapBehind, writesValue⟩ := writes
  refine .pair writesName isGap isGapBehind (imp _ _ _ ?_ writesValue)
  simp only [List.length_append, List.length_cons]
  omega

theorem WritesObject.imp {α : Type} {strict : Bool} {Writes Other : Text → RawText → α → Prop}
    {part : RawText} {members : List (Text × α)} (writes : WritesObject strict Writes part members)
    (imp : ∀ name inner value, inner.length + 2 ≤ part.length → Writes name inner value →
      Other name inner value) : WritesObject strict Other part members := by
  obtain @⟨parts, inside, _, lists, each⟩ := writes
  have shorter : ∀ inner ∈ parts,
      inner.length + 2 ≤ (some '\x7b' :: (inside ++ [some '\x7d'])).length := by
    intro inner member
    have bound := lists.length_le_of_mem inner member
    simpa using bound
  refine .braces lists (((List.forall₂_and_left parts _).mpr ⟨shorter, each⟩).imp ?_)
  rintro inner member ⟨short, written⟩
  exact written.imp fun name valued value bound => imp name valued value (by omega)

/-- A value nests no deeper than its text is long. -/
theorem WritesValue.of_length_le {strict : Bool} {depth bound : Nat} {part : RawText} {value : Json}
    (writes : WritesValue strict depth part value) (long : part.length ≤ bound) :
    WritesValue strict bound part value := by
  induction depth generalizing part value bound with
  | zero =>
      obtain ⟨WritesPart?, same⟩ := exists_writesValue_eq strict bound
      rw [same]
      cases writes with
      | null => exact .null
      | isTrue => exact .isTrue
      | isFalse => exact .isFalse
      | number negative writes valued => exact .number negative writes valued
      | string writes => exact .string writes
      | array nests => cases nests
      | object nests => cases nests
  | succ depth induction =>
      obtain ⟨WritesPart?, same⟩ := exists_writesValue_eq strict bound
      -- The brackets around a part make up for the level that it nests deeper.
      cases writes with
      | null => exact same ▸ .null
      | isTrue => exact same ▸ .isTrue
      | isFalse => exact same ▸ .isFalse
      | number negative writes valued => exact same ▸ .number negative writes valued
      | string writes => exact same ▸ .string writes
      | array nests writes =>
          cases nests
          obtain ⟨bound, rfl⟩ : ∃ less, bound = less + 1 := by
            obtain ⟨-, -⟩ := writes
            exact ⟨bound - 1, by rw [List.length_cons] at long; omega⟩
          exact .array rfl (writes.imp fun inner item shorter inside =>
            induction inside (by omega))
      | object nests writes =>
          cases nests
          obtain ⟨bound, rfl⟩ : ∃ less, bound = less + 1 := by
            obtain ⟨-, -⟩ := writes
            exact ⟨bound - 1, by rw [List.length_cons] at long; omega⟩
          exact .object rfl (writes.imp fun name inner item shorter inside =>
            induction inside (by omega))

end ProxyHistory.Json
