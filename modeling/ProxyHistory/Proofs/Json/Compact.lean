import Mathlib.Algebra.Group.Int.Defs
import ProxyHistory.Proofs.Json.Values
import ProxyHistory.Proofs.SortedMap

/-!
# The compact form is one of the written forms

A lenient reader passes over exactly the compact form of a value. A strict one does so and gives the
value back if its integers fit machine words, its members are sorted and it holds no floating point
number. What is read holds no name twice in an object.
-/

namespace ProxyHistory.Json

/-- What is proved of a value may be assumed of its items and its members. -/
@[elab_as_elim]
theorem induction {motive : Json → Prop} (null : motive .null)
    (bool : ∀ value, motive (.bool value)) (integer : ∀ value, motive (.integer value))
    (real : ∀ value, motive (.real value)) (string : ∀ text, motive (.string text))
    (array : ∀ items, (∀ item ∈ items, motive item) → motive (.array items))
    (object : ∀ members, (∀ member ∈ members, motive member.2) → motive (.object members))
    (value : Json) : motive value :=
  @Json.rec motive (fun items => ∀ item ∈ items, motive item)
    (fun members => ∀ member ∈ members, motive member.2) (fun member => motive member.2)
    null bool integer real string array object
    (fun _ absent => absurd absent List.not_mem_nil)
    (fun _ _ first rest => List.forall_mem_cons.mpr ⟨first, rest⟩)
    (fun _ absent => absurd absent List.not_mem_nil)
    (fun _ _ first rest => List.forall_mem_cons.mpr ⟨first, rest⟩)
    (fun _ _ second => second)
    value

/-! ## Nesting -/

mutual

/-- How deep a value nests. -/
def nesting : Json → Nat
  | .array items => nestingItems items + 1
  | .object members => nestingMembers members + 1
  | .null | .bool _ | .integer _ | .real _ | .string _ => 0

/-- How deep the deepest of the items nests. -/
def nestingItems : List Json → Nat
  | [] => 0
  | item :: items => max (nesting item) (nestingItems items)

/-- How deep the deepest of the members nests. -/
def nestingMembers : List (Text × Json) → Nat
  | [] => 0
  | (_, value) :: members => max (nesting value) (nestingMembers members)

end

theorem nestingItems_le_iff {items : List Json} {bound : Nat} :
    nestingItems items ≤ bound ↔ ∀ item ∈ items, nesting item ≤ bound := by
  induction items with
  | nil => simp [nestingItems]
  | cons item items induction => rw [nestingItems, Nat.max_le, induction, List.forall_mem_cons]

theorem nestingMembers_le_iff {members : List (Text × Json)} {bound : Nat} :
    nestingMembers members ≤ bound ↔ ∀ member ∈ members, nesting member.2 ≤ bound := by
  induction members with
  | nil => simp [nestingMembers]
  | cons member members induction =>
      rw [nestingMembers, Nat.max_le, induction, List.forall_mem_cons]

/-! ## Parts -/

theorem compactItems_eq (items : List Json) :
    compactItems items = List.intercalate [','] (items.map compact) := by
  induction items with
  | nil => rfl
  | cons item items induction =>
      cases items with
      | nil => rw [compactItems, List.map_singleton, List.intercalate_singleton]
      | cons next items =>
          rw [compactItems, induction]
          · simp [List.intercalate_cons_cons]
          · simp

/-- The written form of a member. -/
def memberText (member : Text × Json) : Text :=
  quote member.1 ++ ':' :: member.2.compact

theorem compactMembers_eq (members : List (Text × Json)) :
    compactMembers members = List.intercalate [','] (members.map memberText) := by
  induction members with
  | nil => rfl
  | cons member members induction =>
      cases members with
      | nil => rw [compactMembers, List.map_singleton, List.intercalate_singleton, memberText]
      | cons next members =>
          rw [compactMembers, induction]
          · simp [List.intercalate_cons_cons, memberText]
          · simp

theorem lists_intercalate (parts : List Text) :
    Lists true (parts.map Text.raw) (Text.raw (List.intercalate [','] parts)) := by
  cases parts with
  | nil => exact .nil true gap_nil
  | cons part parts =>
      have later : ∃ written, Lists false (parts.map Text.raw) written ∧
          Text.raw (List.intercalate [','] (part :: parts)) = part.raw ++ written := by
        induction parts generalizing part with
        | nil => exact ⟨[], .nil false gap_nil, by simp⟩
        | cons next parts induction =>
            obtain ⟨written, lists, same⟩ := induction next
            refine ⟨_, @Lists.cons _ _ next.raw _ _ (.next gap_nil gap_nil) lists, ?_⟩
            rw [List.intercalate_cons_cons, List.append_assoc, List.singleton_append,
              Text.raw_append, Text.raw_cons, same]
            rfl
      obtain ⟨written, lists, same⟩ := later
      rw [same]
      exact .cons (.first gap_nil) lists

/-! ## First characters -/

theorem ofInt_eq_numeral (value : Int) :
    Text.ofInt value = sign (decide (value < 0)) ++ (Numeral.ofNat value.natAbs).text := by
  rw [Numeral.text_ofNat, ofInt_eq]
  rfl

theorem exists_signed_eq {numeral : Numeral} (formed : numeral.IsWellFormed) (negative : Bool) :
    ∃ c ∈ numberLeads, ∃ rest, sign negative ++ numeral.text = c :: rest := by
  cases negative with
  | true => exact ⟨'-', by decide, numeral.text, rfl⟩
  | false =>
      obtain ⟨c, rest, same, digit⟩ := (writesNumeral_text formed).exists_cons
      exact ⟨c, mem_leads_of_isDigit digit, rest, same⟩

theorem exists_compact_eq (value : Json) :
    ∃ c ∈ leads value, ∃ rest, value.compact = c :: rest := by
  cases value with
  | integer value =>
      rw [compact, ofInt_eq_numeral]
      exact exists_signed_eq (Numeral.isWellFormed_ofNat _) _
  | real value =>
      obtain ⟨numeral, formed, same⟩ := exists_render_eq value
      rw [compact, same]
      exact exists_signed_eq formed _
  | null => exact ⟨'n', List.mem_singleton_self 'n', _, rfl⟩
  | bool value =>
      cases value with
      | true => exact ⟨'t', List.mem_singleton_self 't', _, rfl⟩
      | false => exact ⟨'f', List.mem_singleton_self 'f', _, rfl⟩
  | string text => exact ⟨'"', List.mem_singleton_self '"', _, rfl⟩
  | array items => exact ⟨'[', List.mem_singleton_self '[', _, rfl⟩
  | object members => exact ⟨'\x7b', List.mem_singleton_self '\x7b', _, rfl⟩

theorem isSolid_compact (value : Json) : IsSolid value.compact.raw := by
  obtain ⟨c, lead, rest, same⟩ := exists_compact_eq value
  exact ⟨c, Text.raw rest, by rw [same]; rfl, solid_leads value c lead⟩

theorem length_le_compactItems (items : List Json) :
    items.length ≤ (compactItems items).length := by
  have lists := lists_intercalate (items.map compact)
  rw [← compactItems_eq] at lists
  have shorter := lists.length_le fun part member => by
    obtain ⟨text, inTexts, rfl⟩ := List.mem_map.mp member
    obtain ⟨item, -, rfl⟩ := List.mem_map.mp inTexts
    exact (isSolid_compact item).ne_nil
  simpa using shorter

/-! ## What is read back as it was -/

/-- A value that reading its written form gives back. -/
inductive IsPlain : Json → Prop
  | null : IsPlain .null
  | bool (value : Bool) : IsPlain (.bool value)
  | integer (value : Int) (least : -(2 : Int) ^ 63 ≤ value) (greatest : value < 2 ^ 64) :
      IsPlain (.integer value)
  | string (text : Text) : IsPlain (.string text)
  | array (items : List Json) (each : ∀ item ∈ items, IsPlain item) : IsPlain (.array items)
  | object (members : Entries Json) (sorted : members.Sorted)
      (each : ∀ member ∈ members, IsPlain member.2) : IsPlain (.object members)

theorem IsPlain.of_mem_array {items : List Json} (plain : (Json.array items).IsPlain) {item : Json}
    (member : item ∈ items) : item.IsPlain := by
  cases plain with
  | array _ each => exact each item member

theorem IsPlain.sorted {members : Entries Json} (plain : (Json.object members).IsPlain) :
    members.Sorted := by
  cases plain with
  | object _ sorted _ => exact sorted

theorem IsPlain.of_mem_object {members : Entries Json} (plain : (Json.object members).IsPlain)
    {member : Text × Json} (inside : member ∈ members) : member.2.IsPlain := by
  cases plain with
  | object _ _ each => exact each member inside

theorem ofMembers_of_sorted {members : Entries Json} (sorted : members.Sorted) :
    ofMembers members = .object members := by
  have inserted (front : Entries Json) (whole : (front ++ members).Sorted) :
      members.foldl (fun sorted member => Entries.insert member.1 member.2 sorted) front =
        front ++ members := by
    induction members generalizing front with
    | nil => rw [List.foldl_nil, List.append_nil]
    | cons member members induction =>
        have behind : ∀ other ∈ front, other.1 < member.1 := fun other inFront =>
          (List.pairwise_append.mp whole).2.2 other inFront member List.mem_cons_self
        have later := induction (List.Pairwise.of_cons sorted) (front ++ [member])
          (by rwa [List.append_assoc, List.singleton_append])
        rw [List.foldl_cons, Entries.insert_of_sorted behind, later, List.append_assoc,
          List.singleton_append]
  rw [ofMembers, inserted [] sorted, List.nil_append]

/-! ## Writing -/

section Writing

variable {strict : Bool} {depth : Nat}

/-- The compact form is written for a value, which is the one that it is the form of if that is
plain. -/
def WritesBack (strict : Bool) (depth : Nat) (value read : Json) : Prop :=
  WritesValue strict depth value.compact.raw read ∧ (value.IsPlain → read = value)

theorem WritesValueWith.writesValue {part : RawText} {value : Json}
    (writes : ∀ WritesPart?, WritesValueWith strict WritesPart? part value) (depth : Nat) :
    WritesValue strict depth part value := by
  obtain ⟨WritesPart?, same⟩ := exists_writesValue_eq strict depth
  rw [same]
  exact writes WritesPart?

theorem value?_integer {value : Int} (plain : (integer value).IsPlain) :
    (Numeral.ofNat value.natAbs).value? (decide (value < 0)) = some (integer value) := by
  cases plain with
  | integer _ least greatest =>
      by_cases negative : value < 0
      · have same : -(value.natAbs : Int) = value := by omega
        have fits : value.natAbs ≤ Nat.pow 2 63 := by
          change value.natAbs ≤ 2 ^ 63
          omega
        rw [decide_eq_true negative, Numeral.value?_ofNat_negative (by omega) fits, same]
      · have same : (value.natAbs : Int) = value := by omega
        have fits : value.natAbs < wordBound := by
          change value.natAbs < 2 ^ 64
          omega
        rw [decide_eq_false negative, Numeral.value?_ofNat fits, same]

theorem exists_writesBack_number (value : Json) {numeral : Numeral} {negative : Bool}
    (formed : numeral.IsWellFormed) (same : value.compact = sign negative ++ numeral.text)
    (valued : value.IsPlain → numeral.value? negative = some value)
    (plain : strict = true → value.IsPlain) (depth : Nat) :
    ∃ read, WritesBack strict depth value read := by
  have has : ∃ read, numberValue? strict negative numeral = some read ∧
      (value.IsPlain → read = value) := by
    rw [numberValue?]
    cases found : numeral.value? negative with
    | some read => exact ⟨read, rfl, fun isPlain => Option.some.inj (found ▸ valued isPlain)⟩
    | none =>
        have notPlain : ¬ value.IsPlain := fun isPlain => by
          rw [valued isPlain] at found
          cases found
        cases strict with
        | true => exact absurd (plain rfl) notPlain
        | false => exact ⟨.null, rfl, fun isPlain => absurd isPlain notPlain⟩
  obtain ⟨read, isRead, back⟩ := has
  refine ⟨read, WritesValueWith.writesValue (fun _ => ?_) depth, back⟩
  rw [same]
  exact .number negative (writesNumeral_text formed) isRead

theorem exists_forall₂ {α β : Type} {R : α → β → Prop} {items : List α}
    (each : ∀ item ∈ items, ∃ value, R item value) : ∃ values, List.Forall₂ R items values := by
  induction items with
  | nil => exact ⟨[], .nil⟩
  | cons item items induction =>
      obtain ⟨⟨value, first⟩, others⟩ := List.forall_mem_cons.mp each
      obtain ⟨values, later⟩ := induction others
      exact ⟨value :: values, .cons first later⟩

theorem eq_of_forall₂ {α : Type} {R : α → α → Prop} {items values : List α}
    (related : List.Forall₂ R items values)
    (same : ∀ item ∈ items, ∀ value, R item value → value = item) : values = items := by
  induction related with
  | nil => rfl
  | cons first later induction =>
      obtain ⟨here, others⟩ := List.forall_mem_cons.mp same
      rw [here _ first, induction others]

theorem writesList_compact {α : Type} {Writes : RawText → α → Prop} {items : List Json}
    {values : List α} (each : List.Forall₂ (fun item value => Writes item.compact.raw value)
      items values) : WritesList Writes (array items).compact.raw values := by
  have lists := lists_intercalate (items.map compact)
  have text_eq : (array items).compact.raw =
      some '[' :: (Text.raw (compactItems items) ++ [some ']']) := by
    simp [compact]
  rw [text_eq, compactItems_eq]
  refine .brackets lists ?_
  rw [List.map_map, List.forall₂_map_left_iff]
  exact each

theorem writesObject_compact {α : Type} {Writes : Text → RawText → α → Prop}
    {members : List (Text × Json)} {entries : List (Text × α)}
    (each : List.Forall₂ (fun member entry => entry.1 = member.1 ∧
      Writes entry.1 member.2.compact.raw entry.2) members entries) :
    WritesObject strict Writes (object members).compact.raw entries := by
  have lists := lists_intercalate (members.map memberText)
  have text_eq : (object members).compact.raw =
      some '\x7b' :: (Text.raw (compactMembers members) ++ [some '\x7d']) := by
    simp [compact]
  rw [text_eq, compactMembers_eq]
  refine .braces lists ?_
  rw [List.map_map, List.forall₂_map_left_iff]
  refine each.imp fun member entry writes => ?_
  have same : (memberText member).raw =
      (quote member.1).raw ++ ([] ++ some ':' :: ([] ++ member.2.compact.raw)) := by
    simp [memberText]
  obtain ⟨name, value⟩ := entry
  obtain ⟨rfl, writesPart⟩ := writes
  rw [Function.comp_apply, same]
  exact .pair (writesString_quote strict member.1) gap_nil gap_nil writesPart

theorem exists_writesBack_array {items : List Json}
    (each : ∀ item ∈ items, ∃ read, WritesBack strict depth item read) :
    ∃ read, WritesBack strict (depth + 1) (array items) read := by
  obtain ⟨values, reads⟩ := exists_forall₂ each
  refine ⟨.array values, .array rfl ?_, fun plain => ?_⟩
  · exact writesList_compact (reads.imp fun item read writes => writes.1)
  · rw [eq_of_forall₂ reads fun item member read writes => writes.2 (plain.of_mem_array member)]

theorem exists_writesBack_object {members : List (Text × Json)}
    (each : ∀ member ∈ members, ∃ read, WritesBack strict depth member.2 read) :
    ∃ read, WritesBack strict (depth + 1) (object members) read := by
  have named : ∀ member ∈ members, ∃ read : Text × Json,
      read.1 = member.1 ∧ WritesBack strict depth member.2 read.2 := fun member inside =>
    (each member inside).imp' (fun read => (member.1, read)) fun read writes => ⟨rfl, writes⟩
  obtain ⟨values, reads⟩ := exists_forall₂ named
  refine ⟨ofMembers values, .object rfl ?_, fun plain => ?_⟩
  · exact writesObject_compact (reads.imp fun member read writes => ⟨writes.1, writes.2.1⟩)
  · rw [eq_of_forall₂ reads fun member inside read writes =>
      Prod.ext writes.1 (writes.2.2 (plain.of_mem_object inside)), ofMembers_of_sorted plain.sorted]

/-- The compact form is one of the written forms wherever the value may nest deep enough. -/
theorem exists_writesBack (value : Json) (plain : strict = true → value.IsPlain)
    (nests : value.nesting ≤ depth) : ∃ read, WritesBack strict depth value read := by
  induction value using induction generalizing depth with
  | null => exact ⟨.null, WritesValueWith.writesValue (fun _ => .null) depth, fun _ => rfl⟩
  | bool value =>
      cases value with
      | true =>
          exact ⟨.bool true, WritesValueWith.writesValue (fun _ => .isTrue) depth, fun _ => rfl⟩
      | false =>
          exact ⟨.bool false, WritesValueWith.writesValue (fun _ => .isFalse) depth, fun _ => rfl⟩
  | integer value =>
      exact exists_writesBack_number (.integer value) (Numeral.isWellFormed_ofNat value.natAbs)
        (ofInt_eq_numeral value) value?_integer plain depth
  | real value =>
      obtain ⟨numeral, formed, same⟩ := exists_render_eq value
      exact exists_writesBack_number (.real value) formed same nofun plain depth
  | string text =>
      exact ⟨.string text, WritesValueWith.writesValue
        (fun _ => .string (writesString_quote strict text)) depth, fun _ => rfl⟩
  | array items induction =>
      obtain ⟨depth, rfl⟩ : ∃ less, depth = less + 1 := ⟨depth - 1, by rw [nesting] at nests; omega⟩
      have shallow := nestingItems_le_iff.mp (Nat.le_of_succ_le_succ nests)
      exact exists_writesBack_array fun item member =>
        induction item member (fun isStrict => (plain isStrict).of_mem_array member)
          (shallow item member)
  | object members induction =>
      obtain ⟨depth, rfl⟩ : ∃ less, depth = less + 1 := ⟨depth - 1, by rw [nesting] at nests; omega⟩
      have shallow := nestingMembers_le_iff.mp (Nat.le_of_succ_le_succ nests)
      exact exists_writesBack_object fun member inside =>
        induction member inside (fun isStrict => (plain isStrict).of_mem_object inside)
          (shallow member inside)

/-- A plain value is written as it is. -/
theorem writesValue_compact {value : Json} (plain : value.IsPlain) (nests : value.nesting ≤ depth) :
    WritesValue strict depth value.compact.raw value := by
  obtain ⟨read, writes, back⟩ := exists_writesBack value (fun _ : strict = true => plain) nests
  rwa [back plain] at writes

end Writing

/-! ## Names -/

/-- No name stands twice in front of the values of an object. -/
def HasDistinctNames (value : Json) : Prop :=
  ∀ members, value = .object members → (members.map (·.1)).Nodup

theorem hasDistinctNames_ofMembers (members : Entries Json) :
    (ofMembers members).HasDistinctNames := by
  have sorted (front : Entries Json) (frontSorted : front.Sorted) :
      Entries.Sorted (members.foldl (fun sorted member =>
        Entries.insert member.1 member.2 sorted) front) := by
    induction members generalizing front with
    | nil => exact frontSorted
    | cons member members induction => exact induction _ (Entries.sorted_insert frontSorted)
  rintro _ ⟨⟩
  exact Entries.nodup_of_sorted (sorted [] .nil)

theorem WritesValue.hasDistinctNames {depth : Nat} {part : RawText} {value : Json}
    (writes : WritesValue true depth part value) : value.HasDistinctNames := by
  obtain ⟨WritesPart?, same⟩ := exists_writesValue_eq true depth
  rw [same] at writes
  cases writes with
  | number negative writes valued =>
      rcases kind_of_numberValue? valued with ⟨number, rfl⟩ | ⟨number, rfl⟩ <;> exact nofun
  | object nests writes => exact hasDistinctNames_ofMembers _
  | null | isTrue | isFalse | string | array => exact nofun

theorem WritesValueWith.exists_writesList {WritesPart? : Option (RawText → Json → Prop)}
    {part : RawText} {items : List Json}
    (writes : WritesValueWith true WritesPart? part (.array items)) :
    ∃ WritesPart, WritesPart? = some WritesPart ∧ WritesList WritesPart part items := by
  generalize same : Json.array items = value at writes
  cases writes with
  | number negative writes valued =>
      rcases kind_of_numberValue? valued with ⟨number, rfl⟩ | ⟨number, rfl⟩ <;> cases same
  | array nests writes =>
      cases same
      exact ⟨_, nests, writes⟩
  | null | isTrue | isFalse | string | object => cases same

theorem WritesValue.hasDistinctNames_of_mem {depth : Nat} {part : RawText} {items : List Json}
    (writes : WritesValue true depth part (.array items)) :
    ∀ item ∈ items, item.HasDistinctNames := by
  cases depth with
  | zero =>
      obtain ⟨_, ⟨⟩, -⟩ := WritesValueWith.exists_writesList writes
  | succ depth =>
      obtain ⟨_, ⟨⟩, ⟨-, each⟩⟩ := WritesValueWith.exists_writesList writes
      clear writes
      induction each with
      | nil => exact List.forall_mem_nil _
      | cons first _ induction =>
          exact List.forall_mem_cons.mpr ⟨first.hasDistinctNames, induction⟩

/-- In the items of an array that was parsed no name stands twice. -/
theorem hasDistinctNames_of_parse {text : Text} {items : List Json}
    (parsed : parse text = .ok (.array items)) : ∀ item ∈ items, item.HasDistinctNames := by
  obtain ⟨⟨value, rest⟩, read, ended⟩ := exists_of_bind_eq_ok parsed
  obtain ⟨-, -, ⟨⟩⟩ := exists_of_bind_eq_ok ended
  have starts := (isExact_readValue true depthLimit).sound read
  generalize text.raw = whole at starts
  obtain ⟨-, writes⟩ := starts
  exact writes.hasDistinctNames_of_mem

end ProxyHistory.Json
