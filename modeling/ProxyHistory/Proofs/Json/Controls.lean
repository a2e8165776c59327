import ProxyHistory.Proofs.Json.Compact

/-!
# The compact form is a single line

No control character stands in the compact form of a value, line ends among them: between tokens
there is nothing, and in a string they are escaped.
-/

namespace ProxyHistory.Json

/-- A text holds no character in front of the space, which the line feed and the carriage return
are. -/
def Uncontrolled (text : Text) : Prop :=
  ∀ c ∈ text, 0x20 ≤ c.toNat

instance (text : Text) : Decidable (Uncontrolled text) :=
  inferInstanceAs (Decidable (∀ c ∈ text, 0x20 ≤ c.toNat))

theorem Uncontrolled.append {first second : Text} (before : Uncontrolled first)
    (after : Uncontrolled second) : Uncontrolled (first ++ second) :=
  List.forall_mem_append.mpr ⟨before, after⟩

theorem Uncontrolled.cons {c : Char} {text : Text} (atLeast : 0x20 ≤ c.toNat)
    (after : Uncontrolled text) : Uncontrolled (c :: text) :=
  List.forall_mem_cons.mpr ⟨atLeast, after⟩

theorem Uncontrolled.flatMap {α : Type} {write : α → Text} {parts : List α}
    (each : ∀ part ∈ parts, Uncontrolled (write part)) : Uncontrolled (parts.flatMap write) := by
  intro c member
  obtain ⟨part, inParts, inPart⟩ := List.mem_flatMap.mp member
  exact each part inParts c inPart

theorem Uncontrolled.lineFeed_not_mem {text : Text} (uncontrolled : Uncontrolled text) :
    '\n' ∉ text := fun member =>
  absurd (uncontrolled '\n' member) (by decide)

/-! ## Numbers -/

theorem uncontrolled_of_isDigits {digits : Text} (isDigits : IsDigits digits) :
    Uncontrolled digits := by
  intro c member
  have code := isDigits.2 c member
  rw [Char.isDigit_iff_toNat, show '0'.toNat = 48 from rfl] at code
  omega

theorem Numeral.uncontrolled_text {numeral : Numeral} (formed : numeral.IsWellFormed) :
    Uncontrolled numeral.text := by
  obtain ⟨whole, fraction?, exponent?⟩ := numeral
  refine (uncontrolled_of_isDigits formed.whole.1).append (.append ?_ ?_)
  · cases fraction? with
    | none => exact List.forall_mem_nil _
    | some digits =>
        exact .cons (by decide) (uncontrolled_of_isDigits (formed.fraction digits rfl))
  · cases exponent? with
    | none => exact List.forall_mem_nil _
    | some exponent =>
        refine .cons (by decide) (.append ?_ ?_)
        · cases exponent.1 <;> decide
        · exact uncontrolled_of_isDigits (formed.exponent exponent rfl)

theorem uncontrolled_signed {numeral : Numeral} (formed : numeral.IsWellFormed) (negative : Bool) :
    Uncontrolled (sign negative ++ numeral.text) := by
  refine .append ?_ (Numeral.uncontrolled_text formed)
  cases negative <;> decide

/-! ## Strings -/

theorem uncontrolled_escape (c : Char) : Uncontrolled (escape c) := by
  have hex : ∀ value < 16, 0x20 ≤ (hexDigit value).toNat := by decide
  rw [escape]
  split_ifs with quote backslash backspace formFeed lineFeed carriageReturn tab control
  any_goals decide
  · have opening : Uncontrolled ['\\', 'u', '0', '0'] := by decide
    have digits : Uncontrolled [hexDigit (c.toNat / 16), hexDigit (c.toNat % 16)] :=
      .cons (hex (c.toNat / 16) (by omega)) (.cons (hex (c.toNat % 16) (by omega))
        (List.forall_mem_nil _))
    exact opening.append digits
  · exact .cons (Nat.le_of_not_lt control) (List.forall_mem_nil _)

theorem uncontrolled_quote (text : Text) : Uncontrolled (quote text) :=
  .cons (by decide) (.append (.flatMap fun c _ => uncontrolled_escape c) (by decide))

/-! ## Values -/

theorem uncontrolled_intercalate {parts : List Text} (each : ∀ part ∈ parts, Uncontrolled part) :
    Uncontrolled (List.intercalate [','] parts) := by
  induction parts with
  | nil => exact List.forall_mem_nil _
  | cons part parts induction =>
      obtain ⟨first, others⟩ := List.forall_mem_cons.mp each
      cases parts with
      | nil => rwa [List.intercalate_singleton]
      | cons next parts =>
          rw [List.intercalate_cons_cons]
          exact (first.append (by decide)).append (induction others)

theorem uncontrolled_compactItems {items : List Json}
    (each : ∀ item ∈ items, Uncontrolled item.compact) : Uncontrolled (compactItems items) := by
  rw [compactItems_eq]
  exact uncontrolled_intercalate (List.forall_mem_map.mpr each)

theorem uncontrolled_compactMembers {members : List (Text × Json)}
    (each : ∀ member ∈ members, Uncontrolled member.2.compact) :
    Uncontrolled (compactMembers members) := by
  rw [compactMembers_eq]
  refine uncontrolled_intercalate (List.forall_mem_map.mpr fun member inside => ?_)
  exact (uncontrolled_quote member.1).append (.cons (by decide) (each member inside))

/-- The compact form of a value holds no control character, however deep it nests. -/
theorem uncontrolled_compact (value : Json) : Uncontrolled value.compact := by
  induction value using induction with
  | null => decide
  | bool value => cases value <;> decide
  | integer value =>
      rw [compact, ofInt_eq_numeral]
      exact uncontrolled_signed (Numeral.isWellFormed_ofNat _) _
  | real value =>
      obtain ⟨numeral, formed, same⟩ := exists_render_eq value
      rw [compact, same]
      exact uncontrolled_signed formed _
  | string text => exact uncontrolled_quote text
  | array items each =>
      exact .cons (by decide) (.append (uncontrolled_compactItems each) (by decide))
  | object members each =>
      exact .cons (by decide) (.append (uncontrolled_compactMembers each) (by decide))

end ProxyHistory.Json
