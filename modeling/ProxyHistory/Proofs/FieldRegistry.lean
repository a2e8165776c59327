import ProxyHistory.FieldRegistry
import ProxyHistory.Proofs.Query.Literals
import ProxyHistory.Proofs.SortedMap

/-!
# The names of fields

A field is known under its lower-case name. The names of the fields that are always there hold no
blanks, quotes and commas, and neither does any other way to write them.
-/

namespace ProxyHistory.FieldRegistry

open Text (isBlank)
open Query (IsWord IsListed isQuote)

theorem contains_iff {registry : FieldRegistry} {name : Text} :
    registry.contains name ↔ Text.lower name ∈ registry.names :=
  Option.isSome_iff_exists.trans SortedMap.mem_names_iff.symm

theorem mem_names_of_contains {registry : FieldRegistry} {name : Text}
    (known : registry.contains name) : Text.lower name ∈ registry.names :=
  contains_iff.mp known

theorem isSome_extract? (registry : FieldRegistry) (name : Text) (transaction : Transaction) :
    (registry.extract? name transaction).isSome = registry.contains name :=
  Option.isSome_map

theorem names_builtin :
    builtin.names = ["body", "host", "method", "path", "query", "req", "req.body",
      "req.content_type", "resp", "resp.body", "resp.content_type", "resp.status_code",
      "status_code", "url"].map String.toList := by
  rfl

theorem lineFeed_not_mem_names : ∀ name ∈ builtin.names, '\n' ∉ name := by
  rw [names_builtin]
  decide

/-- However a field that is always there is written, the name holds no character that is its own
lower case and that no name holds. -/
theorem not_mem_of_contains_builtin {name : Text} (known : builtin.contains name) {c : Char}
    (fixed : Text.lowerChar c = [c]) (notSigma : c ≠ '\u03A3')
    (absent : ∀ other ∈ builtin.names, c ∉ other) : c ∉ name := fun member =>
  absent _ (mem_names_of_contains known) (Text.mem_lower fixed notSigma member)

theorem isWord_of_contains_builtin {name : Text} (known : builtin.contains name) :
    IsWord name where
  ne_nil := by
    rintro rfl
    have member := mem_names_of_contains known
    rw [names_builtin] at member
    exact absurd member (by decide)
  plain := by
    have namesPlain : ∀ other ∈ builtin.names, ∀ c ∈ other,
        isBlank c = false ∧ isQuote c = false := by
      rw [names_builtin]
      decide
    intro c member
    constructor
    · rw [Bool.eq_false_iff]
      intro blank
      refine not_mem_of_contains_builtin known (Text.lowerChar_of_isBlank blank) ?_ ?_ member
      · rintro rfl
        exact absurd blank (by decide)
      · intro other otherMember inOther
        rw [(namesPlain other otherMember c inOther).1] at blank
        exact absurd blank (by decide)
    · rw [Bool.eq_false_iff]
      intro quote
      have absent : ∀ other ∈ builtin.names, c ∉ other := by
        intro other otherMember inOther
        rw [(namesPlain other otherMember c inOther).2] at quote
        exact absurd quote (by decide)
      rcases Query.eq_or_eq_of_isQuote quote with rfl | rfl
      · exact not_mem_of_contains_builtin known (by decide) (by decide) absent member
      · exact not_mem_of_contains_builtin known (by decide) (by decide) absent member

theorem isListed_of_contains_builtin {name : Text} (known : builtin.contains name) :
    IsListed name where
  ne_nil := (isWord_of_contains_builtin known).ne_nil
  trimmed := Query.trimmed_of_isWord (isWord_of_contains_builtin known)
  undivided := by
    apply not_mem_of_contains_builtin known (by decide) (by decide)
    rw [names_builtin]
    decide

end ProxyHistory.FieldRegistry
