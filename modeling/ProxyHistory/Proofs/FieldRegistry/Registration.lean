import ProxyHistory.Proofs.FieldRegistry
import ProxyHistory.Proofs.Text.Lowered

/-!
# Registering fields

Fields that are registered one after the other form a map in which any letter case of a name counts
and the last registration under a name wins. A lookup puts into lower case what is stored so
already, which changes no name.
-/

namespace ProxyHistory.FieldRegistry

/-- Register fields one after the other. -/
def registerAll (registry : FieldRegistry) (calls : Entries Extractor) : FieldRegistry :=
  calls.foldl (fun registry call => registry.register call.1 call.2) registry

/-- The registrations of the fields that are always there. -/
def builtinCalls : Entries Extractor :=
  builtinFields.map fun (name, extractor) => (name.toList, extractor)

theorem registerAll_append (registry : FieldRegistry) (first second : Entries Extractor) :
    registry.registerAll (first ++ second) = (registry.registerAll first).registerAll second :=
  List.foldl_append

theorem builtin_eq_registerAll : builtin = empty.registerAll builtinCalls := by
  rw [registerAll, builtinCalls, List.foldl_map]
  rfl

/-! ## One registration -/

section Register

variable (registry : FieldRegistry) (name spelling : Text) (extractor : Extractor)

theorem get?_register :
    (registry.register name extractor).get? spelling =
      if Text.lower spelling = Text.lower name then some extractor else registry.get? spelling :=
  SortedMap.get?_insert ..

theorem mem_names_register_iff :
    spelling ∈ (registry.register name extractor).names ↔
      Text.lower name = spelling ∨ spelling ∈ registry.names := by
  rw [names, names, SortedMap.mem_names_iff, SortedMap.mem_names_iff]
  simp only [register, SortedMap.get?_insert]
  by_cases same : spelling = Text.lower name
  · simp [same]
  · simp [same, Ne.symm same]

end Register

/-! ## All registrations -/

/-- The last registration under a name that is written in any letter case. -/
def lastCall? (calls : Entries Extractor) (name : Text) : Option (Text × Extractor) :=
  calls.reverse.find? fun call => Text.lower call.1 = name

theorem lastCall?_cons (call : Text × Extractor) (calls : Entries Extractor) (name : Text) :
    lastCall? (call :: calls) name =
      (lastCall? calls name).or (if Text.lower call.1 = name then some call else none) := by
  rw [lastCall?, List.reverse_cons, List.find?_append, ← lastCall?, List.find?_singleton]
  simp only [decide_eq_true_eq]

theorem get?_registerAll (registry : FieldRegistry) (calls : Entries Extractor) (spelling : Text) :
    (registry.registerAll calls).get? spelling =
      ((lastCall? calls (Text.lower spelling)).map (·.2)).or (registry.get? spelling) := by
  induction calls generalizing registry with
  | nil => rfl
  | cons call calls induction =>
      have later := induction (registry.register call.1 call.2)
      rw [registerAll] at later
      rw [registerAll, List.foldl_cons, later, get?_register, lastCall?_cons]
      cases lastCall? calls (Text.lower spelling) with
      | some last => rfl
      | none =>
          by_cases same : Text.lower call.1 = Text.lower spelling
          · simp [same]
          · simp [same, Ne.symm same]

theorem mem_names_registerAll_iff (registry : FieldRegistry) (calls : Entries Extractor)
    (name : Text) : name ∈ (registry.registerAll calls).names ↔
      (∃ call ∈ calls, Text.lower call.1 = name) ∨ name ∈ registry.names := by
  induction calls generalizing registry with
  | nil => simp [registerAll]
  | cons call calls induction =>
      have later := induction (registry.register call.1 call.2)
      rw [registerAll] at later
      rw [registerAll, List.foldl_cons, later, mem_names_register_iff]
      simp only [List.exists_mem_cons_iff, or_assoc, or_left_comm]

/-- What the registry knows is what was registered, and in any letter case of a name it has the
last value that was registered under it. -/
structure IsLastWriterMap (registry : FieldRegistry) (calls : Entries Extractor) : Prop where
  increasing : registry.names.Pairwise (· < ·)
  mem_names_iff : ∀ name, name ∈ registry.names ↔ ∃ call ∈ calls, Text.lower call.1 = name
  contains_iff : ∀ spelling, registry.contains spelling ↔ Text.lower spelling ∈ registry.names
  extract?_eq : ∀ spelling transaction, registry.extract? spelling transaction =
    (lastCall? calls (Text.lower spelling)).map fun call => call.2 transaction
  /-- Each name finds itself. -/
  found : ∀ name ∈ registry.names, registry.contains name ∧
    ∃ call, lastCall? calls name = some call ∧
      ∀ transaction, registry.extract? name transaction = some (call.2 transaction)

theorem exists_lastCall?_iff {calls : Entries Extractor} {name : Text} :
    (∃ call, lastCall? calls name = some call) ↔ ∃ call ∈ calls, Text.lower call.1 = name := by
  rw [← Option.isSome_iff_exists, lastCall?, List.find?_isSome]
  simp only [List.mem_reverse, decide_eq_true_eq]

theorem names_increasing (registry : FieldRegistry) : registry.names.Pairwise (· < ·) :=
  List.pairwise_map.mpr registry.extractors.sorted

/-- Registration from nothing, which the fields that are always there have behind them as well. -/
theorem isLastWriterMap_of_empty (calls : Entries Extractor) :
    IsLastWriterMap (empty.registerAll calls) calls := by
  have registered (name : Text) : name ∈ (empty.registerAll calls).names ↔
      ∃ call ∈ calls, Text.lower call.1 = name := by
    rw [mem_names_registerAll_iff]
    exact or_iff_left List.not_mem_nil
  have extracted (spelling : Text) (transaction : Transaction) :
      (empty.registerAll calls).extract? spelling transaction =
        (lastCall? calls (Text.lower spelling)).map fun call => call.2 transaction := by
    have found : (empty.registerAll calls).get? spelling =
        (lastCall? calls (Text.lower spelling)).map (·.2) :=
      (get?_registerAll empty calls spelling).trans Option.or_none
    rw [extract?, found, Option.map_map]
    rfl
  refine ⟨names_increasing _, registered, fun spelling => contains_iff, extracted, ?_⟩
  -- A name is looked up under its lower case, which is the name itself.
  intro name member
  have lowered : Text.lower name = name := by
    obtain ⟨call, -, rfl⟩ := (registered name).mp member
    exact Text.lower_lower call.1
  refine ⟨contains_iff.mpr (lowered.symm ▸ member), ?_⟩
  obtain ⟨call, last⟩ := exists_lastCall?_iff.mpr ((registered name).mp member)
  refine ⟨call, last, fun transaction => ?_⟩
  rw [extracted, lowered, last]
  rfl

/-- Whatever is registered, on nothing or on the fields that are always there, the registry is the
map of the last registrations. -/
theorem isLastWriterMap_registerAll (calls : Entries Extractor) :
    IsLastWriterMap (empty.registerAll calls) calls ∧
      IsLastWriterMap (builtin.registerAll calls) (builtinCalls ++ calls) := by
  refine ⟨isLastWriterMap_of_empty calls, ?_⟩
  rw [builtin_eq_registerAll, ← registerAll_append]
  exact isLastWriterMap_of_empty (builtinCalls ++ calls)

/-- A field that is always there gives way to one that is registered under its name. -/
example (extractor : Extractor) (transaction : Transaction) :
    (builtin.register "HOST".toList extractor).extract? "Host".toList transaction =
      some (extractor transaction) := by
  rfl

end ProxyHistory.FieldRegistry
