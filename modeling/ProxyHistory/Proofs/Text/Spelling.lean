import ProxyHistory.Text.Basic

/-!
# Spellings

Where escapes leave a choice, the same items may be written in many ways. Each of them comes in
pieces, one for each item.
-/

namespace ProxyHistory.Text

/-- The signs are made up of pieces that write the items one by one. -/
inductive Spells {σ α : Type} (Writes : List σ → α → Prop) : List σ → List α → Prop
  | nil : Spells Writes [] []
  | cons {piece written : List σ} {item : α} {items : List α} (first : Writes piece item)
      (later : Spells Writes written items) : Spells Writes (piece ++ written) (item :: items)

section Spells

variable {σ α : Type} {Writes : List σ → α → Prop} {written : List σ} {items : List α}

/-- There are at least as many signs as items. -/
theorem Spells.length_le (visible : ∀ piece item, Writes piece item → piece ≠ [])
    (spells : Spells Writes written items) : items.length ≤ written.length := by
  induction spells with
  | nil => exact Nat.le_refl 0
  | cons first later induction =>
      have piece := List.length_pos_iff.mpr (visible _ _ first)
      rw [List.length_append, List.length_cons]
      omega

theorem Spells.not_mem {mark : σ} (free : ∀ piece item, Writes piece item → mark ∉ piece)
    (spells : Spells Writes written items) : mark ∉ written := by
  induction spells with
  | nil => exact List.not_mem_nil
  | cons first later induction =>
      rw [List.mem_append, not_or]
      exact ⟨free _ _ first, induction⟩

end Spells

end ProxyHistory.Text
