import Mathlib.Data.List.Sort
import ProxyHistory.Proofs.FieldRegistry.Registration
import ProxyHistory.Proofs.Projection
import ProxyHistory.Proofs.Text.Folding

/-!
# What rows hold

There is a row for each transaction. It holds the values of the known fields that are asked for, and
nothing else; in which order, how often and in which letter case they are asked for makes no
difference.
-/

namespace ProxyHistory

theorem SortedMap.eq_of_get?_eq {α : Type} {first second : SortedMap α}
    (same : ∀ name, first.get? name = second.get? name) : first = second := by
  have irreflexive : Std.Irrefl fun entry other : Text × α => entry.1 < other.1 :=
    ⟨fun _ => List.lt_irrefl _⟩
  have antisymmetric : Std.Antisymm fun entry other : Text × α => entry.1 < other.1 :=
    ⟨fun _ _ before after => absurd after (List.lt_asymm before)⟩
  have entries_eq : first.entries = second.entries := by
    refine List.Pairwise.eq_of_mem_iff first.sorted second.sorted fun entry => ?_
    rw [mem_entries_iff, mem_entries_iff, same]
  cases first
  cases second
  cases entries_eq
  rfl

namespace Projection

/-- Some field of a list asks for a name: it is the name in any letter case, or the star. -/
def AsksFor (fields : List Text) (name : Text) : Prop :=
  ∃ field ∈ fields, Text.lower (Text.trim field) = name ∨ Text.trim field = everything

instance (fields : List Text) (name : Text) : Decidable (AsksFor fields name) :=
  inferInstanceAs (Decidable (∃ field ∈ fields, _))

/-- The row of a transaction has the known names that are asked for, each with the value that is
taken from the transaction, also where that is absent. -/
structure Shows (registry : FieldRegistry) (fields : List Text) (row : Row)
    (transaction : Transaction) : Prop where
  names : row.names = registry.names.filter (AsksFor fields ·)
  values : ∀ name ∈ row.names, ∃ value, registry.extract? name transaction = some value ∧
    row.get? name = some value

/-- Each field of a list that is known, and the star, is also in another list, at any place and in
any letter case. -/
def Covers (registry : FieldRegistry) (fields others : List Text) : Prop :=
  ∀ field ∈ fields, registry.contains (Text.trim field) ∨ Text.trim field = everything →
    ∃ other ∈ others, Text.trim (Text.lower other) = Text.trim (Text.lower field)

instance (registry : FieldRegistry) (fields others : List Text) :
    Decidable (Covers registry fields others) :=
  inferInstanceAs (Decidable (∀ field ∈ fields, _ → _))

/-- Rows show just what is asked for, and lists of fields that ask for the same have the same
rows. -/
structure IsExact (registry : FieldRegistry) : Prop where
  shows : ∀ transactions fields,
    List.Forall₂ (Shows registry fields) (project registry transactions fields) transactions
  congr : ∀ transactions fields others, Covers registry fields others →
    Covers registry others fields →
      project registry transactions fields = project registry transactions others

theorem lower_eq_everything_iff {text : Text} : Text.lower text = everything ↔ text = everything :=
  Text.lower_eq_star_iff

theorem AsksFor.of_covers {registry : FieldRegistry} {fields others : List Text}
    (covers : Covers registry fields others) {name : Text} (known : name ∈ registry.names)
    (asks : AsksFor fields name) : AsksFor others name := by
  obtain ⟨field, member, asks⟩ := asks
  have shown : registry.contains (Text.trim field) ∨ Text.trim field = everything := by
    refine asks.imp_left fun isName => FieldRegistry.contains_iff.mpr ?_
    rw [isName]
    exact known
  obtain ⟨other, inOthers, same⟩ := covers field member shown
  rw [← Text.lower_trim, ← Text.lower_trim] at same
  refine ⟨other, inOthers, asks.imp same.trans fun star => ?_⟩
  rw [star, lower_eq_everything_iff.mpr rfl] at same
  exact lower_eq_everything_iff.mp same

/-- A list of fields is resolved to the known names that it asks for. -/
theorem mem_resolve_iff {registry : FieldRegistry} {fields : List Text} {name : Text} :
    name ∈ resolve registry fields ↔ name ∈ registry.names ∧ AsksFor fields name := by
  have resolved (field : Text) :
      (name ∈ if Text.lower (Text.trim field) = everything then registry.names
        else if registry.contains (Text.lower (Text.trim field)) then
          [Text.lower (Text.trim field)]
        else []) ↔
      name ∈ registry.names ∧
        (Text.lower (Text.trim field) = name ∨ Text.trim field = everything) := by
    by_cases star : Text.trim field = everything
    · rw [if_pos (lower_eq_everything_iff.mpr star)]
      exact (and_iff_left (.inr star)).symm
    · have known_iff : registry.contains (Text.lower (Text.trim field)) ↔
          Text.lower (Text.trim field) ∈ registry.names := by
        rw [FieldRegistry.contains_iff, Text.lower_lower]
      rw [if_neg (mt lower_eq_everything_iff.mp star), or_iff_left star]
      constructor
      · intro member
        split at member
        · rename_i known
          rw [List.mem_singleton.mp member]
          exact ⟨known_iff.mp known, rfl⟩
        · exact absurd member List.not_mem_nil
      · rintro ⟨known, rfl⟩
        rw [if_pos (known_iff.mpr known)]
        exact List.mem_singleton_self _
  simp only [resolve, List.mem_flatMap, resolved]
  constructor
  · rintro ⟨field, member, known, asks⟩
    exact ⟨known, field, member, asks⟩
  · rintro ⟨known, field, member, asks⟩
    exact ⟨field, member, known, asks⟩

section Lowered

variable {registry : FieldRegistry} (lowered : ∀ name ∈ registry.names, Text.lower name = name)

include lowered

theorem exists_extract? {name : Text} (known : name ∈ registry.names) (transaction : Transaction) :
    ∃ value, registry.extract? name transaction = some value := by
  rw [← Option.isSome_iff_exists, FieldRegistry.isSome_extract?, FieldRegistry.contains_iff,
    lowered name known]
  exact known

theorem shows_row (fields : List Text) (transaction : Transaction) :
    Shows registry fields (row registry (resolve registry fields) transaction) transaction := by
  have found {name : Text} (known : name ∈ registry.names) (asks : AsksFor fields name) :
      (row registry (resolve registry fields) transaction).get? name =
        registry.extract? name transaction := by
    rw [get?_row, if_pos (mem_resolve_iff.mpr ⟨known, asks⟩)]
  have names_eq : (row registry (resolve registry fields) transaction).names =
      registry.names.filter (AsksFor fields ·) := by
    refine List.Pairwise.eq_of_mem_iff (List.pairwise_map.mpr (SortedMap.sorted _))
      (registry.names_increasing.filter _) fun name => ?_
    rw [SortedMap.mem_names_iff, List.mem_filter, decide_eq_true_eq]
    constructor
    · rintro ⟨value, held⟩
      rw [get?_row] at held
      split at held
      · rename_i resolved
        exact mem_resolve_iff.mp resolved
      · cases held
    · rintro ⟨known, asks⟩
      rw [found known asks]
      exact exists_extract? lowered known transaction
  refine ⟨names_eq, fun name member => ?_⟩
  rw [names_eq, List.mem_filter, decide_eq_true_eq] at member
  obtain ⟨value, extracted⟩ := exists_extract? lowered member.1 transaction
  exact ⟨value, extracted, (found member.1 member.2).trans extracted⟩

/-- Projection is exact where names are stored in lower case. -/
theorem isExact_of_lowered : IsExact registry where
  shows transactions fields := by
    rw [project, List.forall₂_map_left_iff, List.forall₂_same]
    exact fun transaction _ => shows_row lowered fields transaction
  congr transactions fields others covers covered := by
    have resolved_iff (name : Text) :
        name ∈ resolve registry fields ↔ name ∈ resolve registry others := by
      rw [mem_resolve_iff, mem_resolve_iff]
      exact and_congr_right fun known =>
        ⟨AsksFor.of_covers covers known, AsksFor.of_covers covered known⟩
    refine List.map_congr_left fun transaction _ => SortedMap.eq_of_get?_eq fun name => ?_
    simp only [get?_row, resolved_iff]

end Lowered

/-- Whatever is registered, on nothing or on the fields that are always there, projection is
exact. -/
theorem isExact_registerAll (calls : Entries Extractor) :
    IsExact (FieldRegistry.empty.registerAll calls) ∧
      IsExact (FieldRegistry.builtin.registerAll calls) := by
  have fromEmpty (calls : Entries Extractor) : IsExact (FieldRegistry.empty.registerAll calls) := by
    refine isExact_of_lowered fun name member => ?_
    obtain ⟨call, -, rfl⟩ := (FieldRegistry.mem_names_registerAll_iff ..).mp member |>.resolve_right
      List.not_mem_nil
    exact Text.lower_lower call.1
  refine ⟨fromEmpty calls, ?_⟩
  rw [FieldRegistry.builtin_eq_registerAll, ← FieldRegistry.registerAll_append]
  exact fromEmpty _

/-- A name may be written with blanks around it, and twice. -/
example : Covers .builtin ["req.body".toList] [" Req.BODY".toList, "REQ.body\t".toList] := by
  decide +kernel

end Projection

end ProxyHistory
