import ProxyHistory.Text.Basic

/-!
# Maps sorted by name

Values under names, kept as a list in strictly increasing order of the names. The order is the one
of code points from the first character on, so the entries of a map have one possible list.
-/

namespace ProxyHistory

/-- A list of named values in any order. -/
abbrev Entries (α : Type) := List (Text × α)

namespace Entries

variable {α : Type}

/-- Put a value under a name of a sorted list; a value that was there before is replaced. -/
def insert (name : Text) (value : α) : Entries α → Entries α
  | [] => [(name, value)]
  | (other, held) :: rest =>
      if name < other then (name, value) :: (other, held) :: rest
      else if name = other then (name, value) :: rest
      else (other, held) :: insert name value rest

/-- Every name comes before all names to its right. -/
def Sorted (entries : Entries α) : Prop :=
  entries.Pairwise fun first second => first.1 < second.1

theorem mem_insert {name : Text} {value : α} {entries : Entries α} {entry : Text × α}
    (member : entry ∈ insert name value entries) :
    entry = (name, value) ∨ entry ∈ entries := by
  induction entries with
  | nil => simpa [insert] using member
  | cons head rest induction =>
      obtain ⟨other, held⟩ := head
      simp only [insert] at member
      split at member
      · simpa using member
      · split at member
        · rcases List.mem_cons.mp member with rfl | member
          · exact .inl rfl
          · exact .inr (List.mem_cons_of_mem _ member)
        · rcases List.mem_cons.mp member with rfl | member
          · exact .inr List.mem_cons_self
          · exact (induction member).imp id (List.mem_cons_of_mem _)

theorem sorted_insert {name : Text} {value : α} {entries : Entries α} (sorted : entries.Sorted) :
    (insert name value entries).Sorted := by
  induction entries with
  | nil => simp [insert, Sorted]
  | cons head rest induction =>
      obtain ⟨other, held⟩ := head
      obtain ⟨below, sorted_rest⟩ := List.pairwise_cons.mp sorted
      simp only [insert]
      split
      · rename_i before
        refine List.pairwise_cons.mpr ⟨?_, sorted⟩
        intro entry member
        rcases List.mem_cons.mp member with rfl | member
        · exact before
        · exact List.lt_trans before (below entry member)
      · rename_i not_before
        split
        · rename_i same
          subst same
          exact List.pairwise_cons.mpr ⟨below, sorted_rest⟩
        · rename_i different
          refine List.pairwise_cons.mpr ⟨?_, induction sorted_rest⟩
          intro entry member
          rcases mem_insert member with rfl | member
          · exact (List.le_iff_lt_or_eq.mp (List.not_lt.mp not_before)).resolve_right
              fun same => different same.symm
          · exact below entry member

end Entries

/-- Values under names, no two of them equal. -/
structure SortedMap (α : Type) where
  /-- The names and their values. -/
  entries : Entries α
  /-- The names increase. -/
  sorted : entries.Sorted

namespace SortedMap

variable {α : Type}

/-- The map without entries. -/
def empty : SortedMap α where
  entries := []
  sorted := List.Pairwise.nil

/-- Put a value under a name, in place of the value that was there before. -/
def insert (map : SortedMap α) (name : Text) (value : α) : SortedMap α where
  entries := map.entries.insert name value
  sorted := Entries.sorted_insert map.sorted

/-- The map of a list of entries; of several under one name the last counts. -/
def ofList (entries : Entries α) : SortedMap α :=
  entries.foldl (fun map entry => map.insert entry.1 entry.2) empty

/-- The value under a name. -/
def get? (map : SortedMap α) (name : Text) : Option α :=
  map.entries.lookup name

/-- Whether there is a value under a name. -/
def contains (map : SortedMap α) (name : Text) : Bool :=
  (map.get? name).isSome

/-- The names in increasing order. -/
def names (map : SortedMap α) : List Text :=
  map.entries.map (·.1)

end SortedMap

end ProxyHistory
