import ProxyHistory.SortedMap

/-!
# What is found under a name

Entries are told apart by their names: putting a value under a name changes what is found there, and
nothing else.
-/

namespace ProxyHistory

variable {α : Type}

namespace Entries

theorem lookup_cons_eq (name : Text) (entry : Text × α) (entries : Entries α) :
    List.lookup name (entry :: entries) =
      if name = entry.1 then some entry.2 else entries.lookup name := by
  rw [List.lookup_cons]
  by_cases same : name = entry.1
  · rw [if_pos same, beq_iff_eq.mpr same]
  · rw [if_neg same, beq_eq_false_iff_ne.mpr same]

theorem mem_names_iff {name : Text} {entries : Entries α} :
    name ∈ entries.map (·.1) ↔ ∃ value, entries.lookup name = some value := by
  induction entries with
  | nil => simp
  | cons entry entries induction =>
      rw [List.map_cons, List.mem_cons, induction, lookup_cons_eq]
      by_cases same : name = entry.1
      · simp [same]
      · simp [same]

theorem mem_of_lookup {name : Text} {value : α} {entries : Entries α}
    (found : entries.lookup name = some value) : (name, value) ∈ entries := by
  obtain ⟨front, back, rfl, -⟩ := List.lookup_eq_some_iff.mp found
  exact List.mem_append_right front List.mem_cons_self

theorem lookup_eq_none_of_not_mem {name : Text} {entries : Entries α}
    (absent : name ∉ entries.map (·.1)) : entries.lookup name = none := by
  rw [mem_names_iff, not_exists] at absent
  exact Option.eq_none_iff_forall_ne_some.mpr absent

theorem nodup_of_sorted {entries : Entries α} (sorted : entries.Sorted) :
    (entries.map (·.1)).Nodup := by
  rw [List.Nodup, List.pairwise_map]
  refine sorted.imp fun before same => ?_
  rw [same] at before
  exact List.lt_irrefl _ before

theorem lookup_insert (name other : Text) (value : α) (entries : Entries α) :
    (entries.insert name value).lookup other =
      if other = name then some value else entries.lookup other := by
  induction entries with
  | nil => rw [insert, lookup_cons_eq]
  | cons entry entries induction =>
      rw [insert]
      split
      · rw [lookup_cons_eq]
      · split
        · rename_i same
          rw [lookup_cons_eq, lookup_cons_eq, ← same]
          split <;> rfl
        · rename_i different
          rw [lookup_cons_eq, lookup_cons_eq, induction]
          by_cases same : other = entry.1
          · rw [if_pos same, if_pos same, if_neg fun is => different (is.symm.trans same)]
          · rw [if_neg same, if_neg same]

theorem lookup_of_mem {entries : Entries α} (distinct : (entries.map (·.1)).Nodup)
    {entry : Text × α} (member : entry ∈ entries) : entries.lookup entry.1 = some entry.2 := by
  induction entries with
  | nil => exact absurd member List.not_mem_nil
  | cons first entries induction =>
      obtain ⟨alone, others⟩ := List.nodup_cons.mp distinct
      rw [lookup_cons_eq]
      rcases List.mem_cons.mp member with rfl | later
      · rw [if_pos rfl]
      · have differs : entry.1 ≠ first.1 := fun same =>
          alone (List.mem_map.mpr ⟨entry, later, same⟩)
        rw [if_neg differs, induction others later]

theorem lookup_map {β : Type} (change : α → β) (entries : Entries α) (name : Text) :
    (entries.map fun (name, value) => (name, change value)).lookup name =
      (entries.lookup name).map change := by
  induction entries with
  | nil => rfl
  | cons first entries induction =>
      rw [List.map_cons, lookup_cons_eq, lookup_cons_eq, induction]
      by_cases same : name = first.1
      · rw [if_pos same, if_pos same]
        rfl
      · rw [if_neg same, if_neg same]

theorem insert_of_sorted {entries : Entries α} {name : Text} {value : α}
    (behind : ∀ entry ∈ entries, entry.1 < name) :
    entries.insert name value = entries ++ [(name, value)] := by
  induction entries with
  | nil => rfl
  | cons first entries induction =>
      obtain ⟨before, later⟩ := List.forall_mem_cons.mp behind
      have notBefore : ¬ name < first.1 := fun after => List.lt_asymm before after
      have different : name ≠ first.1 := by
        rintro rfl
        exact List.lt_irrefl _ before
      rw [insert, if_neg notBefore, if_neg different, induction later, List.cons_append]

end Entries

namespace SortedMap

theorem get?_insert (map : SortedMap α) (name other : Text) (value : α) :
    (map.insert name value).get? other = if other = name then some value else map.get? other :=
  Entries.lookup_insert name other value map.entries

theorem mem_names_iff {map : SortedMap α} {name : Text} :
    name ∈ map.names ↔ ∃ value, map.get? name = some value :=
  Entries.mem_names_iff

theorem get?_of_mem {map : SortedMap α} {entry : Text × α} (member : entry ∈ map.entries) :
    map.get? entry.1 = some entry.2 :=
  Entries.lookup_of_mem (Entries.nodup_of_sorted map.sorted) member

theorem mem_entries_iff {map : SortedMap α} {entry : Text × α} :
    entry ∈ map.entries ↔ map.get? entry.1 = some entry.2 :=
  ⟨get?_of_mem, Entries.mem_of_lookup⟩

theorem get?_ofList {value? : Text → Option α} (names : List Text) (name : Text) :
    (ofList (names.filterMap fun name => (value? name).map fun value => (name, value))).get? name =
      if name ∈ names then value? name else none := by
  have collected (map : SortedMap α) :
      ((names.filterMap fun name => (value? name).map fun value => (name, value)).foldl
        (fun map entry => map.insert entry.1 entry.2) map).get? name =
          if name ∈ names then (value? name).or (map.get? name) else map.get? name := by
    induction names generalizing map with
    | nil => rfl
    | cons first names induction =>
        rw [List.filterMap_cons]
        cases valued : value? first with
        | none =>
            simp only [Option.map_none, induction]
            by_cases same : name = first
            · subst same
              simp [valued]
            · simp [same]
        | some value =>
            simp only [Option.map_some, List.foldl_cons, induction, get?_insert]
            by_cases same : name = first
            · subst same
              simp [valued]
            · simp [same]
  rw [ofList, collected empty]
  simp [empty, get?]

end SortedMap

end ProxyHistory
