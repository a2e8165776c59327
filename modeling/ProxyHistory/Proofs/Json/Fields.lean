import Mathlib.Data.List.Nodup
import ProxyHistory.Json.Record
import ProxyHistory.Proofs.Json.Compact

/-!
# Fields are read back

Whether a field takes a value can be told from the value itself. Reading its written form comes to
the same. What is missing is null where it may be.
-/

namespace ProxyHistory.Json

/-! ## What fields take -/

/-- The value has the shape. -/
def Shape.Fits : Shape → Json → Prop
  | .string, value => ∃ text, value = .string text
  | .natural bound, value => ∃ number : Nat, number < bound ∧ value = .integer number
  | .anything, _ => True

/-- The field takes the value. -/
def Field.Admits (field : Field) (value : Json) : Prop :=
  field.shape.Fits value ∨ (field.optional = true ∧ value = .null)

/-- The fields are told apart by their names, and a field that takes any value may be missing. -/
structure AreFields (fields : List Field) : Prop where
  distinct : (fields.map (·.name)).Nodup
  optional : ∀ field ∈ fields, field.shape ≠ .anything ∨ field.optional = true

theorem AreFields.of_cons {field : Field} {fields : List Field}
    (are : AreFields (field :: fields)) : AreFields fields where
  distinct := (List.nodup_cons.mp are.distinct).2
  optional := (List.forall_mem_cons.mp are.optional).2

theorem AreFields.eq_of_name {fields : List Field} (are : AreFields fields) {field other : Field}
    (member : field ∈ fields) (otherMember : other ∈ fields) (same : field.name = other.name) :
    field = other :=
  List.inj_on_of_nodup_map are.distinct member otherMember same

theorem AreFields.admits_null_iff {fields : List Field} (are : AreFields fields) {field : Field}
    (member : field ∈ fields) : field.Admits .null ↔ field.optional = true := by
  constructor
  · rintro (fits | ⟨optional, -⟩)
    · refine (are.optional field member).resolve_left fun shaped => ?_
      cases shape : field.shape with
      | anything => exact shaped shape
      | string =>
          rw [shape] at fits
          obtain ⟨text, ⟨⟩⟩ := fits
      | natural bound =>
          rw [shape] at fits
          obtain ⟨number, -, ⟨⟩⟩ := fits
    · exact optional
  · exact fun optional => .inr ⟨optional, rfl⟩

/-- The values of the fields in a value, null for what is missing: by their names in an object, and
by their places in an array. -/
def fieldValues? (fields : List Field) : Json → Option (List Json)
  | .object members => some (fields.map fun field => (members.lookup field.name).getD .null)
  | .array items =>
      if items.length ≤ fields.length then
        some (items ++ List.replicate (fields.length - items.length) .null)
      else
        none
  | _ => none

/-- The value makes up a record with the given values of its fields. -/
def IsRecord (fields : List Field) (value : Json) (values : List Json) : Prop :=
  value.fieldValues? fields = some values ∧ List.Forall₂ Field.Admits fields values

theorem IsRecord.unique {fields : List Field} {value : Json} {values others : List Json}
    (record : IsRecord fields value values) (other : IsRecord fields value others) :
    values = others :=
  Option.some.inj (record.1.symm.trans other.1)

/-! ## First characters -/

/-- The first character of a value tells what is read of it. -/
theorem kind_of_mem_leads {value : Json} {c : Char} (lead : c ∈ leads value) :
    (c = 'n' → value = .null) ∧ (c = '"' → ∃ text, value = .string text) ∧
      (c = '[' → ∃ items, value = .array items) ∧
        (c = '\x7b' → ∃ members, value = .object members) := by
  have numbers : ∀ c ∈ numberLeads, c ≠ 'n' ∧ c ≠ '"' ∧ c ≠ '[' ∧ c ≠ '\x7b' := by decide
  cases value with
  | integer | real =>
      obtain ⟨noNull, noString, noArray, noObject⟩ := numbers c lead
      exact ⟨fun is => absurd is noNull, fun is => absurd is noString, fun is => absurd is noArray,
        fun is => absurd is noObject⟩
  | bool value =>
      cases value <;> obtain rfl := List.mem_singleton.mp lead <;> simp
  | null | string | array | object =>
      obtain rfl := List.mem_singleton.mp lead
      simp

/-- The text shows of what kind the value is: by its first character, and by how null and strings are
written. -/
structure Shows (part : RawText) (value : Json) : Prop where
  lead : ∃ c ∈ leads value, ∃ rest, part = some c :: rest
  null : value = .null → part = Text.raw "null".toList
  string : ∀ text, value = .string text → WritesString true part text

theorem Shows.isSolid {part : RawText} {value : Json} (shows' : Shows part value) :
    IsSolid part := by
  obtain ⟨c, lead, rest, same⟩ := shows'.lead
  exact ⟨c, rest, same, solid_leads value c lead⟩

theorem shows_compact (value : Json) : Shows value.compact.raw value where
  lead := by
    obtain ⟨c, lead, rest, same⟩ := exists_compact_eq value
    exact ⟨c, lead, Text.raw rest, by rw [same]; rfl⟩
  null := by
    rintro rfl
    rfl
  string := by
    rintro text rfl
    exact writesString_quote true text

theorem WritesValue.shows {depth : Nat} {part : RawText} {value : Json}
    (writes : WritesValue true depth part value) : Shows part value := by
  have lead := writes.exists_lead
  suffices spelled : (value = .null → part = Text.raw "null".toList) ∧
      ∀ text, value = .string text → WritesString true part text from ⟨lead, spelled.1, spelled.2⟩
  obtain ⟨WritesPart?, same⟩ := exists_writesValue_eq true depth
  rw [same] at writes
  cases writes with
  | number negative writes valued =>
      rcases kind_of_numberValue? valued with ⟨number, rfl⟩ | ⟨number, rfl⟩
      · exact ⟨nofun, nofun⟩
      · exact ⟨nofun, nofun⟩
  | null => exact ⟨fun _ => rfl, nofun⟩
  | string writes =>
      refine ⟨nofun, ?_⟩
      rintro _ ⟨⟩
      exact writes
  | isTrue | isFalse | array | object => exact ⟨nofun, nofun⟩

theorem exists_refuse_eq {α : Type} (text : RawText) :
    ∃ error, (refuse text : Except ReadError α) = .error error := by
  rw [refuse]
  split
  · exact ⟨_, rfl⟩
  · exact ⟨_, rfl⟩
  · cases readValueWith true none (skipSpace text) with
    | error error => exact ⟨error, rfl⟩
    | ok result => exact ⟨.misshapen, rfl⟩

theorem refuse_ne_ok {α : Type} {text : RawText} {result : α} :
    refuse text ≠ (.ok result : Except ReadError α) := by
  obtain ⟨error, fails⟩ := exists_refuse_eq (α := α) text
  rw [fails]
  exact nofun

theorem isDecision_refuse {α : Type} {Gives : α → Prop} (never : ∀ value, ¬ Gives value)
    (text rest : RawText) : IsDecision Gives rest (refuse text) :=
  .inr ⟨never, exists_refuse_eq text⟩

/-! ## Fields -/

section Fields

/-- The shape is read off a value, or found not to be there. -/
def Shape.IsDecided (depth : Nat) (shape : Shape) (part : RawText) (value : Json) : Prop :=
  Decides (readShape depth shape) part fun read => read = value ∧ shape.Fits value

/-- The field is read off a value, or found not to take it. -/
def Field.IsDecided (depth : Nat) (field : Field) (part : RawText) (value : Json) : Prop :=
  Decides (readField depth field) part fun read => read = value ∧ field.Admits value

variable {depth : Nat} {part : RawText} {value : Json}

theorem Shows.isDecided_string (shows' : Shows part value) :
    Shape.string.IsDecided depth part value := by
  intro rest stops
  obtain ⟨c, lead, more, part_eq⟩ := shows'.lead
  have skipped := shows'.isSolid.skipSpace rest
  rw [readShape]
  beta_reduce
  rw [skipped]
  split
  · rename_i behind same
    rw [part_eq, List.cons_append] at same
    obtain ⟨text, rfl⟩ := (kind_of_mem_leads lead).2.1 (Option.some.inj (List.cons.inj same).1)
    obtain ⟨inside, quoted_eq, reads⟩ := (shows'.string text rfl).readString
    have behind_eq : behind = inside ++ rest := by
      rw [part_eq] at quoted_eq
      rw [← (List.cons.inj same).2, (List.cons.inj quoted_eq).2]
    refine .inl ⟨.string text, ⟨rfl, text, rfl⟩, ?_⟩
    rw [behind_eq, reads]
    rfl
  · rename_i other
    refine isDecision_refuse ?_ _ _
    rintro read ⟨-, text, rfl⟩
    refine other (more ++ rest) ?_
    rw [part_eq, List.mem_singleton.mp lead, List.cons_append]

theorem isDecided_natural {bound number : Nat} (small : number < bound)
    (writes : WritesValue true 0 part (.integer number)) :
    (Shape.natural bound).IsDecided depth part (.integer number) := by
  intro rest stops
  have read := (isExact_readValue true 0).complete writes rest stops
  have inRange : (0 : Int) ≤ number ∧ (number : Int) < bound := by omega
  refine .inl ⟨_, ⟨rfl, number, small, rfl⟩, ?_⟩
  simp only [readShape, read, if_pos inRange]
  rfl

theorem isDecided_anything (writes : WritesValue true depth part value) :
    Shape.anything.IsDecided depth part value := fun rest stops =>
  .inl ⟨_, ⟨rfl, trivial⟩, (isExact_readValue true depth).complete writes rest stops⟩

/-- A field is decided as its shape is, but that null may be taken for what is missing. -/
theorem Shape.IsDecided.field {field : Field} (shows' : Shows part value)
    (decided : field.shape.IsDecided depth part value) : field.IsDecided depth part value := by
  intro rest stops
  have skipped := shows'.isSolid.skipSpace rest
  by_cases absent : field.optional = true ∧ value = .null
  · obtain ⟨optional, rfl⟩ := absent
    refine .inl ⟨.null, ⟨rfl, .inr ⟨optional, rfl⟩⟩, ?_⟩
    rw [readField, skipped, shows'.null rfl]
    change (if field.optional then _ else _) = _
    rw [if_pos optional]
    rfl
  · have read_eq : readField depth field (part ++ rest) =
        readShape depth field.shape (part ++ rest) := by
      obtain ⟨c, lead, more, part_eq⟩ := shows'.lead
      rw [readField, skipped]
      split
      · rename_i same
        rw [part_eq, List.cons_append] at same
        have null := (kind_of_mem_leads lead).1 (Option.some.inj (List.cons.inj same).1)
        rw [if_neg fun optional => absent ⟨optional, null⟩]
      · rfl
    rw [read_eq]
    exact (decided rest stops).congr fun read => by rw [Field.Admits, or_iff_left absent]

theorem Shows.isDecided {field : Field} (shows' : Shows part value)
    (string : field.shape = .string) : field.IsDecided depth part value := by
  refine Shape.IsDecided.field shows' ?_
  rw [string]
  exact shows'.isDecided_string

end Fields

section Skipping

variable {depth : Nat}

theorem refuse_skips {α : Type} (text : RawText) :
    (refuse (skipSpace text) : Except ReadError α) = refuse text := by
  rw [refuse, refuse, skipSpace_skipSpace]

theorem readShape_skips (shape : Shape) (text : RawText) :
    readShape depth shape (skipSpace text) = readShape depth shape text := by
  cases shape with
  | string => simp only [readShape, skipSpace_skipSpace, refuse_skips]
  | natural bound => simp only [readShape, (isExact_readValue true 0).skips, refuse_skips]
  | anything => exact (isExact_readValue true depth).skips text

theorem readField_skips (field : Field) (text : RawText) :
    readField depth field (skipSpace text) = readField depth field text := by
  simp only [readField, skipSpace_skipSpace, readShape_skips]

end Skipping

/-- The text is a value that has the shape. -/
def Shape.Writes (shape : Shape) (part : RawText) (value : Json) : Prop :=
  (∃ depth, WritesValue true depth part value) ∧ shape.Fits value

/-- The text is a value that the field takes. -/
def Field.Writes (field : Field) (part : RawText) (value : Json) : Prop :=
  (∃ depth, WritesValue true depth part value) ∧ field.Admits value

theorem startsWith_of_readShape {depth : Nat} {shape : Shape} {text rest : RawText} {value : Json}
    (read : readShape depth shape text = .ok (value, rest)) :
    StartsWith shape.Writes text value rest := by
  cases shape with
  | string =>
      refine startsWith_of_skips ?_
      rw [readShape] at read
      beta_reduce at read
      split at read
      · rename_i behind skipped
        obtain ⟨⟨quoted, after⟩, found, later⟩ := exists_of_bind_eq_ok read
        cases later
        obtain ⟨inside, rfl, writes⟩ := writesString_of_readString found
        have written : Shape.string.Writes (some '"' :: inside) (.string quoted) :=
          ⟨⟨0, .string writes⟩, quoted, rfl⟩
        rw [skipped, ← List.cons_append]
        exact .behind gap_nil written rest
      · exact absurd read refuse_ne_ok
  | natural bound =>
      rw [readShape] at read
      beta_reduce at read
      split at read
      · rename_i number behind found
        split_ifs at read with inRange
        · cases read
          obtain ⟨isGap, writes⟩ := (isExact_readValue true 0).sound found
          refine .behind isGap ⟨⟨0, writes⟩, number.toNat, ?_, ?_⟩ rest
          · omega
          · rw [Int.toNat_of_nonneg inRange.1]
      · exact absurd read refuse_ne_ok
  | anything =>
      obtain ⟨isGap, writes⟩ := (isExact_readValue true depth).sound read
      exact .behind isGap ⟨⟨depth, writes⟩, trivial⟩ rest

/-- What is read for a field is a value that the field takes. -/
theorem startsWith_of_readField {depth : Nat} {field : Field} {text rest : RawText} {value : Json}
    (read : readField depth field text = .ok (value, rest)) :
    StartsWith field.Writes text value rest := by
  have shaped {value : Json} (read : readShape depth field.shape text = .ok (value, rest)) :
      StartsWith field.Writes text value rest := by
    obtain ⟨isGap, both⟩ := startsWith_of_readShape read
    exact .behind isGap ⟨both.1, .inl both.2⟩ rest
  rw [readField] at read
  split at read
  · rename_i behind skipped
    split_ifs at read with optional
    · obtain ⟨⟨⟨⟩, after⟩, found, later⟩ := exists_of_bind_eq_ok read
      cases later
      refine startsWith_of_skips ?_
      rw [skipped, eq_of_readWord found]
      have null : field.Writes (Text.raw ('n' :: "ull".toList)) .null :=
        ⟨⟨0, .null⟩, .inr ⟨optional, rfl⟩⟩
      exact .behind gap_nil null rest
    · exact shaped read
  · exact shaped read

/-! ## What is missing -/

theorem complete_eq (entries : Entries Json) {fields : List Field}
    (missing : ∀ field ∈ fields, entries.lookup field.name = none → field.optional = true) :
    complete entries fields =
      .ok (fields.map fun field => (entries.lookup field.name).getD .null) := by
  induction fields with
  | nil => rfl
  | cons field fields induction =>
      obtain ⟨first, others⟩ := List.forall_mem_cons.mp missing
      rw [complete, induction others]
      cases found : entries.lookup field.name with
      | some value => simp [found, bind, Except.bind, pure, Except.pure]
      | none => simp [found, first found, bind, Except.bind, pure, Except.pure]

theorem exists_complete_eq (entries : Entries Json) {fields : List Field} {field : Field}
    (member : field ∈ fields) (missing : entries.lookup field.name = none)
    (needed : field.optional = false) : ∃ error, complete entries fields = .error error := by
  induction fields with
  | nil => exact absurd member List.not_mem_nil
  | cons first fields induction =>
      rcases List.mem_cons.mp member with rfl | later
      · refine ⟨.misshapen, ?_⟩
        rw [complete, missing, needed]
        rfl
      · obtain ⟨error, fails⟩ := induction later
        rw [complete, fails]
        cases entries.lookup first.name with
        | some value => exact ⟨error, rfl⟩
        | none =>
            cases first.optional with
            | true => exact ⟨error, rfl⟩
            | false => exact ⟨.misshapen, rfl⟩

end ProxyHistory.Json
