import ProxyHistory.Proofs.Selection.Refusals
import ProxyHistory.Proofs.Selection.Repeats

/-!
# Conditions as a set

What fragments select depends on which fragments there are, and not on their order or on how often
each of them is written. Only the error that is reported may be another one.
-/

namespace ProxyHistory

/-- None of the fragments is refused. They may fit a grammar or not. -/
def Unrefused (fragments : List Text) : Prop :=
  ∀ fragment ∈ fragments, ∃ condition?, Condition.parse fragment = .ok condition?

theorem unrefused_iff {fragments : List Text} :
    Unrefused fragments ↔ ∀ error, ¬ IsFirstRefusal fragments error := by
  rw [← not_exists, exists_isFirstRefusal_iff]
  constructor
  · rintro unrefused ⟨fragment, member, error, refused⟩
    obtain ⟨condition?, read⟩ := unrefused fragment member
    rw [refused] at read
    cases read
  · intro noRefusal fragment member
    cases read : Condition.parse fragment with
    | error error => exact absurd ⟨fragment, member, error, read⟩ noRefusal
    | ok condition? => exact ⟨condition?, rfl⟩

theorem Unrefused.unfit_or_fit {fragments : List Text} (unrefused : Unrefused fragments) :
    (∃ fragment ∈ fragments, Condition.parse fragment = .ok none) ∨
      ∀ fragment ∈ fragments, ∃ condition, Condition.parse fragment = .ok (some condition) := by
  by_cases unfit : ∃ fragment ∈ fragments, Condition.parse fragment = .ok none
  · exact .inl unfit
  · refine .inr fun fragment member => ?_
    obtain ⟨condition?, read⟩ := unrefused fragment member
    cases condition? with
    | none => exact absurd ⟨fragment, member, read⟩ unfit
    | some condition => exact ⟨condition, read⟩

namespace Selection

/-- Whether a transaction satisfies the condition that a fragment is read as. Nothing satisfies a
fragment that fits no grammar. -/
def satisfies (registry : FieldRegistry) (transaction : Transaction) (fragment : Text) : Bool :=
  match Condition.parse fragment with
  | .ok (some condition) => condition.accepts registry transaction
  | .ok none | .error _ => false

/-- Whether a transaction satisfies all fragments. -/
def satisfiesAll (registry : FieldRegistry) (fragments : List Text) (transaction : Transaction) :
    Bool :=
  fragments.all (satisfies registry transaction)

/-- All transactions that fragments select from a history, whatever the limit. -/
def hits (registry : FieldRegistry) (fragments : List Text) (history : History) :
    List Transaction :=
  if fragments = [] then history.reverse
  else newestCopies (satisfiesAll registry fragments) history.reverse

variable {registry : FieldRegistry} {fragments : List Text}

theorem satisfies_of_parse {fragment : Text} {condition : Condition}
    (read : Condition.parse fragment = .ok (some condition)) (transaction : Transaction) :
    satisfies registry transaction fragment = condition.accepts registry transaction := by
  rw [satisfies, read]

theorem not_satisfiesAll_of_unfit {fragment : Text} (member : fragment ∈ fragments)
    (unfit : Condition.parse fragment = .ok none) (transaction : Transaction) :
    ¬ satisfiesAll registry fragments transaction := by
  intro satisfied
  have accepted := List.all_eq_true.mp satisfied fragment member
  rw [satisfies, unfit] at accepted
  cases accepted

theorem exists_conditions (registry : FieldRegistry)
    (fit : ∀ fragment ∈ fragments, ∃ condition, Condition.parse fragment = .ok (some condition)) :
    ∃ conditions : List Condition,
      fragments.map Condition.parse = conditions.map (fun condition => .ok (some condition)) ∧
        acceptsAll registry conditions = satisfiesAll registry fragments := by
  induction fragments with
  | nil => exact ⟨[], rfl, rfl⟩
  | cons fragment fragments induction =>
      obtain ⟨⟨condition, read⟩, fit⟩ := List.forall_mem_cons.mp fit
      obtain ⟨conditions, readAll, same⟩ := induction fit
      refine ⟨condition :: conditions, by rw [List.map_cons, List.map_cons, read, readAll], ?_⟩
      funext transaction
      have later : conditions.all (·.accepts registry transaction) =
          fragments.all (satisfies registry transaction) := congrFun same transaction
      rw [acceptsAll, satisfiesAll, List.all_cons, List.all_cons, later, satisfies_of_parse read]

theorem newestCopies_eq_nil {accepts : Transaction → Bool} (rejects : ∀ other, ¬ accepts other)
    (newestFirst : List Transaction) : newestCopies accepts newestFirst = [] := by
  refine List.eq_nil_iff_forall_not_mem.mpr fun transaction member => ?_
  obtain ⟨newer, older, -, accepted, -⟩ := (mem_newestCopies_iff ..).mp member
  exact rejects transaction accepted

theorem select_of_unfit (unrefused : Unrefused fragments) {fragment : Text}
    (member : fragment ∈ fragments) (unfit : Condition.parse fragment = .ok none)
    (history : History) (limit : Nat) : select registry history fragments limit = .ok [] := by
  cases selected : select registry history fragments limit with
  | error error =>
      exact absurd ((select_eq_error_iff ..).mp selected) (unrefused_iff.mp unrefused error)
  | ok found => rw [eq_nil_of_select selected member (by simp [unfit])]

/-- Fragments of which none is refused select their hits up to the limit. -/
theorem select_eq_hits (unrefused : Unrefused fragments) (history : History) (limit : Nat) :
    select registry history fragments limit =
      .ok (limitTo limit (hits registry fragments history)) := by
  by_cases unconditioned : fragments = []
  · rw [hits, if_pos unconditioned, select, unconditioned]
    rfl
  · rw [hits, if_neg unconditioned]
    rcases unrefused.unfit_or_fit with ⟨fragment, member, unfit⟩ | fit
    · rw [select_of_unfit unrefused member unfit,
        newestCopies_eq_nil (not_satisfiesAll_of_unfit member unfit)]
      simp [limitTo]
    · obtain ⟨conditions, read, same⟩ := exists_conditions registry fit
      rw [select_of_readConditions registry history limit unconditioned read, same]

theorem hits_congr {first second : List Text}
    (same : ∀ fragment, fragment ∈ first ↔ fragment ∈ second) (history : History) :
    hits registry first history = hits registry second history := by
  have sameEmpty : first = [] ↔ second = [] := by
    simp only [List.eq_nil_iff_forall_not_mem, same]
  have sameAccepted : satisfiesAll registry first = satisfiesAll registry second := by
    funext transaction
    rw [Bool.eq_iff_iff, satisfiesAll, satisfiesAll, List.all_eq_true, List.all_eq_true]
    simp only [same]
  rw [hits, hits, sameAccepted]
  simp only [sameEmpty]

/-- Two lists of the same fragments, in any order and with any repetitions, either both fail or
select the same transactions in the same order. -/
theorem select_congr_of_mem_iff (registry : FieldRegistry) (history : History) (limit : Nat)
    {first second : List Text} (same : ∀ fragment, fragment ∈ first ↔ fragment ∈ second) :
    ((∃ error, select registry history first limit = .error error) ∧
        ∃ error, select registry history second limit = .error error) ∨
      ∃ found, select registry history first limit = .ok found ∧
        select registry history second limit = .ok found := by
  by_cases unrefused : Unrefused first
  · have alsoUnrefused : Unrefused second := fun fragment member =>
      unrefused fragment ((same fragment).mpr member)
    refine .inr ⟨_, select_eq_hits unrefused history limit, ?_⟩
    rw [select_eq_hits alsoUnrefused, hits_congr same]
  · have refused : ∃ error, IsFirstRefusal first error := by
      simpa [unrefused_iff] using unrefused
    have alsoRefused : ∃ error, IsFirstRefusal second error := by
      rw [exists_isFirstRefusal_iff] at refused ⊢
      simpa only [same] using refused
    simp only [select_eq_error_iff]
    exact .inl ⟨refused, alsoRefused⟩

/-- A condition that is written twice, and before another one, selects as it does behind it. -/
theorem select_congr_of_mem_iff_twice :
    let sent := localPost [] [] []
    select .builtin [sent] ["path = /p".toList, "method = POST".toList, "path = /p".toList] 1 =
      .ok [sent] := by
  intro sent
  have same : ∀ fragment, fragment ∈ ["method = POST".toList, "path = /p".toList] ↔
      fragment ∈ ["path = /p".toList, "method = POST".toList, "path = /p".toList] := by
    simp only [List.mem_cons, List.not_mem_nil, or_false]
    exact fun fragment => ⟨fun either => either.elim (.inr ∘ .inl) .inl,
      fun any => any.elim .inr id⟩
  have once : select .builtin [sent] ["method = POST".toList, "path = /p".toList] 1 =
      .ok [sent] := by
    rfl
  rcases select_congr_of_mem_iff .builtin [sent] 1 same with
    ⟨⟨error, fails⟩, -⟩ | ⟨found, first, second⟩
  · rw [once] at fails
    cases fails
  · rw [once] at first
    rw [second, first]

end Selection

end ProxyHistory
