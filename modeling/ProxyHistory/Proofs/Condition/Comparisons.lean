import Mathlib.Logic.ExistsUnique
import ProxyHistory.Condition.Evaluation
import ProxyHistory.Proofs.FieldRegistry
import ProxyHistory.Proofs.Text.Order
import ProxyHistory.Proofs.Text.Search

/-!
# Comparisons

The conditions on one field of a transaction agree with each other. Content types are compared as
classes for equality and by their tokens for everything else; since the tokens are different, both
are comparisons of one text with another, and these are in the order of bytes.
-/

namespace ProxyHistory

theorem existsUnique_of_exclusive {α : Type} {holds : α → Prop} {first second third : α}
    (one : holds first ∨ holds second ∨ holds third) (firstSecond : holds first → ¬ holds second)
    (firstThird : holds first → ¬ holds third) (secondThird : holds second → ¬ holds third) :
    ∃! answer, answer ∈ [first, second, third] ∧ holds answer := by
  simp only [List.mem_cons, List.not_mem_nil, or_false]
  rcases one with held | held | held
  · refine ⟨first, ⟨.inl rfl, held⟩, ?_⟩
    rintro other ⟨rfl | rfl | rfl, also⟩
    · rfl
    · exact absurd also (firstSecond held)
    · exact absurd also (firstThird held)
  · refine ⟨second, ⟨.inr (.inl rfl), held⟩, ?_⟩
    rintro other ⟨rfl | rfl | rfl, also⟩
    · exact absurd held (firstSecond also)
    · rfl
    · exact absurd also (secondThird held)
  · refine ⟨third, ⟨.inr (.inr rfl), held⟩, ?_⟩
    rintro other ⟨rfl | rfl | rfl, also⟩
    · exact absurd held (firstThird also)
    · exact absurd held (secondThird also)
    · rfl

/-! ## Texts -/

/-- The answers of the comparisons are those of a text and an operand. -/
structure Comparison.Compares (answer : Comparison → Bool) (text operand : Text) : Prop where
  eq_iff : answer .eq ↔ text = operand
  lt_iff : answer .lt ↔ Text.encode text < Text.encode operand
  gt_iff : answer .gt ↔ Text.encode operand < Text.encode text
  like_iff : answer .like ↔ operand <:+: text
  ne_iff : answer .ne ↔ ¬ answer .eq
  like_of_eq : answer .eq → answer .like
  existsUnique : ∃! comparison, comparison ∈ [.eq, .lt, .gt] ∧ answer comparison

theorem Comparison.compares (text operand : Text) :
    Compares (·.holds text operand) text operand where
  eq_iff := beq_iff_eq
  lt_iff := decide_eq_true_iff.trans Text.encode_lt_iff.symm
  gt_iff := decide_eq_true_iff.trans Text.encode_lt_iff.symm
  like_iff := Text.includes_iff
  ne_iff := bne_iff_ne.trans (not_congr beq_iff_eq.symm)
  like_of_eq := by
    intro same
    rw [beq_iff_eq.mp same]
    exact Text.includes_iff.mpr (List.infix_refl operand)
  existsUnique := by
    apply existsUnique_of_exclusive
    · simp only [holds, beq_iff_eq, decide_eq_true_iff]
      by_cases same : text = operand
      · exact .inl same
      · exact .inr (Text.lt_or_lt_of_ne same)
    · simp only [holds, beq_iff_eq, decide_eq_true_iff]
      rintro rfl
      exact List.lt_irrefl text
    · simp only [holds, beq_iff_eq, decide_eq_true_iff]
      rintro rfl
      exact List.lt_irrefl text
    · simp only [holds, decide_eq_true_iff]
      exact List.lt_asymm

theorem ContentType.token_injective : Function.Injective token := by
  intro first second same
  cases first <;> cases second <;> first | rfl | exact absurd same (by decide)

/-- Classes are the same as soon as their tokens are, so to compare classes is to compare texts. -/
theorem Condition.holdsStandard_eq {value : Value} {text : Text}
    (rendered : value.render? = some text) (comparison : Comparison) (operand : Operand) :
    holdsStandard comparison operand value text = comparison.holds text operand.toText := by
  -- Only the first two cases compare classes.
  unfold holdsStandard
  split
  · rename_i expected actual
    cases rendered
    rw [Bool.eq_iff_iff, beq_iff_eq]
    exact ContentType.token_injective.eq_iff.symm.trans beq_iff_eq.symm
  · rename_i expected actual
    cases rendered
    rw [Bool.eq_iff_iff, bne_iff_ne]
    exact ContentType.token_injective.ne_iff.symm.trans bne_iff_ne.symm
  · rfl

/-- In the order of comparisons, classes come as their tokens do. -/
example : Condition.holdsStandard .lt (.contentType .xml) (.contentType .json) "JSON".toList := by
  decide

/-! ## Lengths -/

/-- The answers of the comparisons are those of a length and an expected number. -/
structure LengthComparison.Compares (answer : LengthComparison → Bool)
    (length expected : Nat) : Prop where
  eq_iff : answer .eq ↔ length = expected
  lt_iff : answer .lt ↔ length < expected
  gt_iff : answer .gt ↔ expected < length
  ne_iff : answer .ne ↔ ¬ answer .eq
  ge_iff : answer .ge ↔ ¬ answer .lt
  le_iff : answer .le ↔ ¬ answer .gt
  existsUnique : ∃! comparison, comparison ∈ [.eq, .lt, .gt] ∧ answer comparison

theorem LengthComparison.compares (length expected : Nat) :
    Compares (·.holds length expected) length expected where
  eq_iff := beq_iff_eq
  lt_iff := decide_eq_true_iff
  gt_iff := decide_eq_true_iff
  ne_iff := bne_iff_ne.trans (not_congr beq_iff_eq.symm)
  ge_iff := by
    simp only [holds, decide_eq_true_iff]
    omega
  le_iff := by
    simp only [holds, decide_eq_true_iff]
    omega
  existsUnique := by
    apply existsUnique_of_exclusive
    all_goals
      simp only [holds, beq_iff_eq, decide_eq_true_iff]
      omega

/-! ## Conditions -/

namespace Condition

variable {registry : FieldRegistry} {transaction : Transaction} {condition : Condition}
variable {key text : Text} {value : Value}

theorem exists_render? (present : value ≠ .absent) : ∃ text, value.render? = some text := by
  cases value with
  | text content => exact ⟨content, rfl⟩
  | integer number => exact ⟨Text.ofInt number, rfl⟩
  | contentType kind => exact ⟨kind.token, rfl⟩
  | absent => exact absurd rfl present

theorem accepts_eq_acceptsValue (found : registry.extract? condition.key transaction = some value) :
    condition.accepts registry transaction = condition.acceptsValue value := by
  rw [accepts, found]

theorem accepts_standard (found : registry.extract? key transaction = some value)
    (rendered : value.render? = some text) (comparison : Comparison) (operand : Operand) :
    (standard key comparison operand).accepts registry transaction =
      comparison.holds text operand.toText := by
  rw [accepts_eq_acceptsValue found, acceptsValue, rendered]
  exact holdsStandard_eq rendered comparison operand

theorem accepts_length (found : registry.extract? key transaction = some value)
    (rendered : value.render? = some text) (comparison : LengthComparison) (literal : Text) :
    (length key comparison literal).accepts registry transaction =
      holdsLength comparison literal text := by
  rw [accepts_eq_acceptsValue found, acceptsValue, rendered]

theorem exists_of_accepts (key : Text) (looksAt : condition.key = key)
    (accepted : condition.accepts registry transaction) :
    ∃ value text, registry.extract? key transaction = some value ∧
      value.render? = some text := by
  subst looksAt
  cases found : registry.extract? condition.key transaction with
  | none =>
      rw [accepts, found] at accepted
      cases accepted
  | some value =>
      rw [accepts_eq_acceptsValue found] at accepted
      have present : value ≠ .absent := by
        rintro rfl
        cases accepted
      obtain ⟨text, rendered⟩ := exists_render? present
      exact ⟨value, text, rfl, rendered⟩

theorem not_accepts_of_unknown (unknown : ¬ registry.contains key)
    (looksAt : condition.key = key) : ¬ condition.accepts registry transaction := by
  intro accepted
  obtain ⟨value, -, found, -⟩ := exists_of_accepts key looksAt accepted
  rw [← FieldRegistry.isSome_extract? registry key transaction, found] at unknown
  exact unknown rfl

theorem not_accepts_of_absent (absent : registry.extract? key transaction = some .absent)
    (looksAt : condition.key = key) : ¬ condition.accepts registry transaction := by
  intro accepted
  obtain ⟨value, text, found, rendered⟩ := exists_of_accepts key looksAt accepted
  obtain rfl := Option.some.inj (found.symm.trans absent)
  cases rendered

theorem not_accepts_of_unread {literal : Text}
    (unread : Text.natural? (Nat.pow 2 64) literal = none) (comparison : LengthComparison) :
    ¬ (length key comparison literal).accepts registry transaction := by
  intro accepted
  obtain ⟨value, text, found, rendered⟩ := exists_of_accepts key rfl accepted
  rw [accepts_length found rendered, holdsLength, unread] at accepted
  cases accepted

section Raised

variable {lower higher : Text} (raised : Text.encode lower < Text.encode higher)

include raised

theorem accepts_lt_of_lt (accepted : (standard key .lt (.text lower)).accepts registry transaction) :
    (standard key .lt (.text higher)).accepts registry transaction := by
  obtain ⟨value, text, found, rendered⟩ := exists_of_accepts key rfl accepted
  rw [accepts_standard found rendered, (Comparison.compares text _).lt_iff] at accepted ⊢
  exact List.lt_trans accepted raised

theorem accepts_gt_of_lt
    (accepted : (standard key .gt (.text higher)).accepts registry transaction) :
    (standard key .gt (.text lower)).accepts registry transaction := by
  obtain ⟨value, text, found, rendered⟩ := exists_of_accepts key rfl accepted
  rw [accepts_standard found rendered, (Comparison.compares text _).gt_iff] at accepted ⊢
  exact List.lt_trans raised accepted

end Raised

/-- The conditions on a field of a transaction agree with each other. -/
structure Agree (registry : FieldRegistry) (transaction : Transaction) (key : Text) : Prop where
  /-- What the conditions say about a value that is there is what the comparisons say about its
  text. -/
  present : registry.contains key → ∃ value, registry.extract? key transaction = some value ∧
    (value ≠ .absent → ∃ text, value.render? = some text ∧
      (∀ operand : Operand, Comparison.Compares
        (fun comparison => (standard key comparison operand).accepts registry transaction)
        text operand.toText) ∧
      ∀ literal expected, Text.natural? (Nat.pow 2 64) literal = some expected →
        LengthComparison.Compares
          (fun comparison => (length key comparison literal).accepts registry transaction)
          text.length expected)
  lt_raised : ∀ {lower higher : Text}, Text.encode lower < Text.encode higher →
    (standard key .lt (.text lower)).accepts registry transaction →
      (standard key .lt (.text higher)).accepts registry transaction
  gt_raised : ∀ {lower higher : Text}, Text.encode lower < Text.encode higher →
    ¬ (standard key .gt (.text lower)).accepts registry transaction →
      ¬ (standard key .gt (.text higher)).accepts registry transaction
  unread : ∀ {literal : Text}, Text.natural? (Nat.pow 2 64) literal = none →
    ∀ comparison, ¬ (length key comparison literal).accepts registry transaction
  unknown : ¬ registry.contains key →
    ∀ condition : Condition, condition.key = key → ¬ condition.accepts registry transaction
  absent : registry.extract? key transaction = some .absent →
    ∀ condition : Condition, condition.key = key → ¬ condition.accepts registry transaction

/-- Whatever the field holds, the conditions on it agree with each other. -/
theorem agree_on_every_field (registry : FieldRegistry) (transaction : Transaction) (key : Text) :
    Agree registry transaction key where
  present := by
    intro known
    rw [← FieldRegistry.isSome_extract? registry key transaction] at known
    obtain ⟨value, found⟩ := Option.isSome_iff_exists.mp known
    refine ⟨value, found, fun notAbsent => ?_⟩
    obtain ⟨text, rendered⟩ := exists_render? notAbsent
    refine ⟨text, rendered, ?_, ?_⟩
    · intro operand
      simp only [accepts_standard found rendered]
      exact Comparison.compares text operand.toText
    · intro literal expected read
      simp only [accepts_length found rendered, holdsLength, read]
      exact LengthComparison.compares text.length expected
  lt_raised := accepts_lt_of_lt
  gt_raised := fun raised => mt (accepts_gt_of_lt raised)
  unread := not_accepts_of_unread
  unknown := fun notKnown _ => not_accepts_of_unknown notKnown
  absent := fun isAbsent _ => not_accepts_of_absent isAbsent

end Condition

end ProxyHistory
