import ProxyHistory.Projection
import ProxyHistory.Proofs.FieldRegistry
import ProxyHistory.Proofs.Json.Compact
import ProxyHistory.Proofs.Transaction

/-!
# Rows

A row holds the values of the fields that were asked for, each under the lower case of its name, and
nothing else.
-/

namespace ProxyHistory

/-- The names of the fields that are always there are their own lower case, and none of them selects
all fields. -/
theorem FieldRegistry.lower_of_mem_names_builtin {name : Text} (member : name ∈ builtin.names) :
    Text.lower name = name ∧ name ≠ Projection.everything := by
  have all : ∀ name ∈ builtin.names, Text.lower name = name ∧ name ≠ Projection.everything := by
    rw [names_builtin]
    decide
  exact all name member

/-- A field that is always there has a value for each transaction, however its name is written. -/
theorem FieldRegistry.exists_extract?_builtin {field : Text} (known : builtin.contains field)
    (transaction : Transaction) :
    ∃ value, builtin.extract? field transaction = some value ∧
      builtin.extract? (Text.lower field) transaction = some value := by
  obtain ⟨extractor, found⟩ := Option.isSome_iff_exists.mp known
  have lower := (lower_of_mem_names_builtin (mem_names_of_contains known)).1
  have foundLower : builtin.get? (Text.lower field) = some extractor := by
    rw [get?, lower]
    exact found
  exact ⟨extractor transaction, by rw [extract?, found]; rfl, by rw [extract?, foundLower]; rfl⟩

namespace Projection

theorem resolve_builtin {fields : List Text}
    (known : ∀ field ∈ fields, FieldRegistry.builtin.contains field) :
    resolve .builtin fields = fields.map Text.lower := by
  induction fields with
  | nil => rfl
  | cons field fields induction =>
      obtain ⟨first, others⟩ := List.forall_mem_cons.mp known
      have trimmed : Text.trim field = field :=
        Text.trim_of_trimmed (FieldRegistry.isListed_of_contains_builtin first).trimmed
      obtain ⟨lower, notAll⟩ :=
        FieldRegistry.lower_of_mem_names_builtin (FieldRegistry.mem_names_of_contains first)
      have contained : FieldRegistry.builtin.contains (Text.lower field) := by
        rw [FieldRegistry.contains, FieldRegistry.get?, lower]
        exact first
      have later := induction others
      rw [resolve] at later
      rw [resolve, List.flatMap_cons, trimmed, later, List.map_cons]
      simp only [if_neg notAll, if_pos contained, List.singleton_append]

theorem get?_row (registry : FieldRegistry) (names : List Text) (transaction : Transaction)
    (name : Text) : (row registry names transaction).get? name =
      if name ∈ names then registry.extract? name transaction else none :=
  SortedMap.get?_ofList names name

section Known

variable {fields : List Text} (known : ∀ field ∈ fields, FieldRegistry.builtin.contains field)
  (transaction : Transaction)

include known

theorem get?_row_builtin {field : Text} (member : field ∈ fields) :
    (row .builtin (fields.map Text.lower) transaction).get? (Text.lower field) =
      FieldRegistry.builtin.extract? field transaction := by
  obtain ⟨value, found, foundLower⟩ :=
    FieldRegistry.exists_extract?_builtin (known field member) transaction
  rw [get?_row, if_pos (List.mem_map_of_mem member), found, foundLower]

theorem mem_names_row_builtin_iff {name : Text} :
    name ∈ (row .builtin (fields.map Text.lower) transaction).names ↔
      name ∈ fields.map Text.lower := by
  rw [SortedMap.mem_names_iff]
  constructor
  · rintro ⟨value, found⟩
    rw [get?_row] at found
    by_contra absent
    rw [if_neg absent] at found
    cases found
  · rintro member
    obtain ⟨field, inside, rfl⟩ := List.mem_map.mp member
    obtain ⟨value, found, -⟩ :=
      FieldRegistry.exists_extract?_builtin (known field inside) transaction
    exact ⟨value, by rw [get?_row_builtin known transaction inside, found]⟩

end Known

end Projection

/-! ## Rows as JSON -/

theorem Row.member_toJson (row : Row) (name : Text) :
    row.toJson.member name = ((row.get? name).map Value.toJson).getD .null := by
  rw [Row.toJson, Json.member, Entries.lookup_map]
  rfl

theorem Value.toJson_eq_null_iff {value : Value} : value.toJson = .null ↔ value = .absent := by
  cases value <;> simp [Value.toJson]

/-- Each extractor of the registry is that of a field that is always there. -/
theorem FieldRegistry.exists_builtinField {entry : Text × Extractor}
    (member : entry ∈ builtin.extractors.entries) :
    ∃ field ∈ builtinFields, entry.2 = field.2 := by
  have registered (fields : List (String × Extractor)) (registry : FieldRegistry)
      (member : entry ∈ (fields.foldl (fun registry field =>
        registry.register field.1.toList field.2) registry).extractors.entries) :
      (∃ field ∈ fields, entry.2 = field.2) ∨ entry ∈ registry.extractors.entries := by
    induction fields generalizing registry with
    | nil => exact .inr member
    | cons field fields induction =>
        rcases induction _ member with ⟨other, inside, same⟩ | earlier
        · exact .inl ⟨other, List.mem_cons_of_mem _ inside, same⟩
        · rcases Entries.mem_insert earlier with same | before
          · exact .inl ⟨field, List.mem_cons_self, by rw [same]⟩
          · exact .inr before
  exact (registered builtinFields empty member).resolve_right List.not_mem_nil

theorem FieldRegistry.isPlain_extract?_builtin {name : Text} {transaction : Transaction}
    {value : Value} (found : builtin.extract? name transaction = some value) :
    value.toJson.IsPlain := by
  obtain ⟨extractor, known, rfl⟩ := Option.map_eq_some_iff.mp found
  obtain ⟨field, member, same⟩ := exists_builtinField (Entries.mem_of_lookup known)
  have fromResponse {take : Response → Value}
      (plain : ∀ response, (take response).toJson.IsPlain) :
      (ofResponse take transaction).toJson.IsPlain := by
    rw [ofResponse]
    cases transaction.response? with
    | none => exact .null
    | some response => exact plain response
  have code (response : Response) :
      (Value.integer response.statusCode.toNat).toJson.IsPlain := by
    have small := response.statusCode.toNat_lt
    exact .integer _ (by omega) (by omega)
  have all : ∀ field ∈ builtinFields, (field.2 transaction).toJson.IsPlain := by
    simp only [builtinFields, List.forall_mem_cons, List.not_mem_nil, false_imp_iff, implies_true,
      and_true]
    exact ⟨.string _, .string _, .string _, .string _, .string _, .string _, .string _, .string _,
      .string _, fromResponse fun _ => .string _, fromResponse code, fromResponse code,
      fromResponse fun _ => .string _, fromResponse fun _ => .string _⟩
  have plain := all field member
  rwa [← same] at plain

/-- A row of fields that are always there can be read back from JSON. -/
theorem Projection.isPlain_row (names : List Text) (transaction : Transaction) :
    (row .builtin names transaction).toJson.IsPlain := by
  refine .object _ (List.pairwise_map.mpr (row .builtin names transaction).sorted) ?_
  intro member inside
  obtain ⟨entry, inRow, rfl⟩ := List.mem_map.mp inside
  have found := SortedMap.get?_of_mem inRow
  rw [get?_row] at found
  split at found
  · exact FieldRegistry.isPlain_extract?_builtin found
  · cases found

theorem Row.nesting_toJson (row : Row) : row.toJson.nesting ≤ 1 := by
  refine Nat.succ_le_succ (Json.nestingMembers_le_iff.mpr fun member inside => ?_)
  obtain ⟨⟨name, value⟩, -, rfl⟩ := List.mem_map.mp inside
  cases value <;> exact Nat.le_refl 0

end ProxyHistory
