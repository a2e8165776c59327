import ProxyHistory.Proofs.Json.Grammar
import ProxyHistory.Proofs.Steps

/-!
# Lists and objects are read part by part

A reader that takes exactly the items of a list off the front of a text takes exactly the list, and
likewise for the members of an object. Where it depends on the items whether they can be read, the
first that cannot be keeps the list from being read.
-/

namespace ProxyHistory.Json

/-! ## Readers -/

/-- What reading comes to: what is described, with the rest of the text, or an error because there
is no such thing. -/
def IsDecision {α : Type} (Gives : α → Prop) (rest : RawText)
    (outcome : Except ReadError (α × RawText)) : Prop :=
  (∃ value, Gives value ∧ outcome = .ok (value, rest)) ∨
    ((∀ value, ¬ Gives value) ∧ ∃ error, outcome = .error error)

/-- The reader passes over exactly the text if it can give what is described, and fails
otherwise. -/
def Decides {α : Type} (reader : Reader α) (part : RawText) (Gives : α → Prop) : Prop :=
  ∀ rest, StopsNumber rest → IsDecision Gives rest (reader (part ++ rest))

/-- The reader passes over space, and then takes exactly what is written of a value. -/
structure IsExact {α : Type} (reader : Reader α) (Writes : RawText → α → Prop) : Prop where
  solid : ∀ {part value}, Writes part value → IsSolid part
  skips : ∀ text, reader (skipSpace text) = reader text
  complete : ∀ {part value}, Writes part value → ∀ rest, StopsNumber rest →
    reader (part ++ rest) = .ok (value, rest)
  sound : ∀ {text value rest}, reader text = .ok (value, rest) → StartsWith Writes text value rest

section Readers

variable {α : Type} {reader : Reader α} {part gap rest : RawText}

theorem IsDecision.eq_ok {Gives : α → Prop} {outcome : Except ReadError (α × RawText)}
    (decided : IsDecision Gives rest outcome) {value : α} (gives : Gives value)
    (unique : ∀ other, Gives other → other = value) : outcome = .ok (value, rest) := by
  rcases decided with ⟨other, givesOther, read⟩ | ⟨never, -⟩
  · rwa [unique other givesOther] at read
  · exact absurd gives (never value)

/-- What is read next decides what the reading before it leaves open. -/
theorem IsDecision.bind {β : Type} {Gives : α → Prop} {Results : β → Prop} {middle : RawText}
    {outcome : Except ReadError (α × RawText)} {next : α × RawText → Except ReadError (β × RawText)}
    (decided : IsDecision Gives middle outcome)
    (later : ∀ value, Gives value → IsDecision Results rest (next (value, middle)))
    (needs : ∀ result, Results result → ∃ value, Gives value) :
    IsDecision Results rest (outcome >>= next) := by
  rcases decided with ⟨value, gives, rfl⟩ | ⟨never, error, rfl⟩
  · exact later value gives
  · refine .inr ⟨fun result results => ?_, error, rfl⟩
    obtain ⟨value, gives⟩ := needs result results
    exact never value gives

theorem IsDecision.gives {Gives : α → Prop} {outcome : Except ReadError (α × RawText)}
    (decided : IsDecision Gives rest outcome) {value : α} {behind : RawText}
    (read : outcome = .ok (value, behind)) : Gives value ∧ behind = rest := by
  rcases decided with ⟨other, gives, rfl⟩ | ⟨-, error, rfl⟩
  · cases read
    exact ⟨gives, rfl⟩
  · cases read

theorem IsDecision.congr {Gives Same : α → Prop} {outcome : Except ReadError (α × RawText)}
    (decided : IsDecision Gives rest outcome) (same : ∀ value, Gives value ↔ Same value) :
    IsDecision Same rest outcome := by
  rwa [← funext fun value => propext (same value)]

theorem reader_gap (skips : ∀ text, reader (skipSpace text) = reader text) (isGap : Gap gap)
    (text : RawText) : reader (gap ++ text) = reader text := by
  rw [← skips, skipSpace_gap isGap, skips]

theorem startsWith_gap {Writes : RawText → α → Prop} {text : RawText} {value : α}
    (starts : StartsWith Writes text value rest) (isGap : Gap gap) :
    StartsWith Writes (gap ++ text) value rest := by
  obtain ⟨isGapBehind, writes⟩ := starts
  rw [← List.append_assoc]
  exact .behind (isGap.append isGapBehind) writes rest

theorem startsWith_of_skips {Writes : RawText → α → Prop} {text : RawText} {value : α}
    (starts : StartsWith Writes (skipSpace text) value rest) :
    StartsWith Writes text value rest := by
  obtain ⟨gap, isGap, same⟩ := exists_skipSpace_eq text
  rw [same]
  exact startsWith_gap starts isGap

end Readers

/-! ## Marks -/

theorem stopsNumber_gap {gap : RawText} (isGap : Gap gap) {mark : Char}
    (stops : continuesNumber mark = false) (rest : RawText) :
    StopsNumber (gap ++ some mark :: rest) := by
  cases gap with
  | nil =>
      rintro _ ⟨⟩
      exact stops
  | cons c? gap =>
      rintro _ ⟨⟩
      have space := isGap c? List.mem_cons_self
      cases c? with
      | none => rfl
      | some c =>
          simp only [Option.any_some, isSpace, Bool.or_eq_true, beq_iff_eq] at space
          rcases space with ((rfl | rfl) | rfl) | rfl <;> decide

theorem Lists.stopsNumber {parts : List RawText} {inside : RawText}
    (lists : Lists false parts inside) {mark : Char} (stops : continuesNumber mark = false)
    (rest : RawText) : StopsNumber (inside ++ some mark :: rest) := by
  cases lists with
  | nil _ isGap => exact stopsNumber_gap isGap stops rest
  | cons separates later =>
      obtain _ | ⟨isGap, -⟩ := separates
      rw [List.append_assoc, List.append_assoc, List.cons_append]
      exact stopsNumber_gap isGap (by decide) _

/-! ## Lists -/

theorem readSeparator_end (first : Bool) {gap : RawText} (isGap : Gap gap) (rest : RawText) :
    readSeparator first (gap ++ some ']' :: rest) = .ok (false, rest) := by
  rw [readSeparator, skipSpace_gap isGap, skipSpace_of_solid (by decide)]
  rfl

theorem readSeparator_next {first : Bool} {between part : RawText}
    (separates : Separates first between) (solid : IsSolid part) (rest : RawText) :
    readSeparator first (between ++ (part ++ rest)) = .ok (true, part ++ rest) := by
  have skipped := solid.skipSpace rest
  obtain ⟨c, more, rfl, -, notEnd⟩ := solid
  cases separates with
  | first isGap =>
      rw [readSeparator, skipSpace_gap isGap, skipped, List.cons_append]
      split
      · rename_i same
        cases same
      · rename_i same
        cases same
        exact absurd rfl notEnd
      · rename_i same
        cases same
        rfl
  | next isGap isGapBehind =>
      have later := (skipSpace_gap isGapBehind (some c :: more ++ rest)).trans skipped
      rw [readSeparator, List.append_assoc, skipSpace_gap isGap, List.cons_append,
        skipSpace_of_solid (by decide)]
      split
      · rename_i same
        cases same
      · rename_i same
        cases same
      · rename_i same
        cases same
        rw [if_neg Bool.false_ne_true, if_pos rfl, later, List.cons_append]
        split
        · rename_i same
          cases same
        · rename_i same
          cases same
          exact absurd rfl notEnd
        · rfl

theorem exists_gap_of_readSeparator {first : Bool} {text rest : RawText}
    (read : readSeparator first text = .ok (false, rest)) :
    ∃ gap, Gap gap ∧ text = gap ++ some ']' :: rest := by
  obtain ⟨gap, isGap, text_eq⟩ := exists_skipSpace_eq text
  unfold readSeparator at read
  split at read
  · cases read
  · rename_i skipped
    cases read
    exact ⟨gap, isGap, by rw [← skipped, ← text_eq]⟩
  · split_ifs at read
    · cases read
    · split at read <;> cases read
    · cases read

theorem separates_of_readSeparator {first : Bool} {text rest : RawText}
    (read : readSeparator first text = .ok (true, rest)) :
    ∃ between, Separates first between ∧ text = between ++ rest := by
  obtain ⟨gap, isGap, text_eq⟩ := exists_skipSpace_eq text
  unfold readSeparator at read
  split at read
  · cases read
  · cases read
  · rename_i c? behind notEnd skipped
    cases first with
    | true =>
        cases read
        exact ⟨gap, .first isGap, by rw [text_eq, skipped]⟩
    | false =>
        rw [if_neg Bool.false_ne_true] at read
        split_ifs at read with comma
        · subst comma
          obtain ⟨gapBehind, isGapBehind, behind_eq⟩ := exists_skipSpace_eq behind
          split at read
          · cases read
          · cases read
          · cases read
            refine ⟨_, .next isGap isGapBehind, ?_⟩
            rw [text_eq, skipped, List.append_assoc, List.cons_append, ← behind_eq]
        · cases read

section Items

variable {α : Type} {readItem : Reader α} {fuel : Nat}

/-- The items of a list are read one by one. -/
theorem isDecision_lists {ι : Type} {Gives : ι → α → Prop} {first : Bool} {parts : List RawText}
    {inside : RawText} {items : List ι} (lists : Lists first parts inside)
    (each : List.Forall₂ (fun part item => IsSolid part ∧ Decides readItem part (Gives item))
      parts items)
    (enough : parts.length < fuel) (rest : RawText) :
    IsDecision (List.Forall₂ Gives items) rest
      (readItems readItem fuel first (inside ++ some ']' :: rest)) := by
  induction lists generalizing items fuel with
  | nil first isGap =>
      cases each
      obtain ⟨fuel, rfl⟩ : ∃ less, fuel = less + 1 := ⟨fuel - 1, by omega⟩
      exact .inl ⟨[], .nil, by rw [readItems, readSeparator_end first isGap]; rfl⟩
  | cons separates later induction =>
      obtain _ | ⟨⟨solid, decides⟩, each⟩ := each
      obtain ⟨fuel, rfl⟩ : ∃ less, fuel = less + 1 := ⟨fuel - 1, by omega⟩
      rw [List.append_assoc, List.append_assoc, readItems, readSeparator_next separates solid]
      refine (decides _ (later.stopsNumber (by decide) rest)).bind (fun value gives => ?_) ?_
      · refine (induction each (Nat.lt_of_succ_lt_succ enough)).bind
          (fun values givesAll => .inl ⟨value :: values, .cons gives givesAll, rfl⟩) ?_
        rintro _ (_ | ⟨-, givesAll⟩)
        exact ⟨_, givesAll⟩
      · rintro _ (_ | ⟨gives, -⟩)
        exact ⟨_, gives⟩

/-- A list is read behind its bracket if each of its items is. -/
theorem exists_isDecision_list {ι : Type} (Gives : ι → α → Prop) {part : RawText} {items : List ι}
    (writes : WritesList (fun part item => IsSolid part ∧ Decides readItem part (Gives item))
      part items) :
    ∃ behind, part = some '[' :: behind ∧ ∀ rest, IsDecision (List.Forall₂ Gives items) rest
      (readItems readItem ((behind ++ rest).length + 1) true (behind ++ rest)) := by
  obtain @⟨parts, inside, _, lists, each⟩ := writes
  refine ⟨inside ++ [some ']'], rfl, fun rest => ?_⟩
  have shorter := lists.length_le_of_forall₂ each fun part item both => both.1
  have enough : parts.length < (inside ++ some ']' :: rest).length + 1 := by
    rw [List.length_append]
    omega
  rw [List.append_assoc, List.singleton_append]
  exact isDecision_lists lists each enough rest

theorem lists_of_readItems {Writes : RawText → α → Prop}
    (sound : ∀ {text value rest}, readItem text = .ok (value, rest) →
      StartsWith Writes text value rest)
    {first : Bool} {text rest : RawText} {values : List α}
    (read : readItems readItem fuel first text = .ok (values, rest)) :
    ∃ parts inside, text = inside ++ some ']' :: rest ∧ Lists first parts inside ∧
      List.Forall₂ Writes parts values := by
  induction fuel generalizing first text values with
  | zero => cases read
  | succ fuel induction =>
      obtain ⟨⟨more, start⟩, separated, later⟩ := exists_of_bind_eq_ok read
      cases more with
      | false =>
          cases later
          obtain ⟨gap, isGap, rfl⟩ := exists_gap_of_readSeparator separated
          exact ⟨[], gap, rfl, .nil first isGap, .nil⟩
      | true =>
          obtain ⟨⟨value, middle⟩, readFirst, later⟩ := exists_of_bind_eq_ok later
          obtain ⟨⟨values, after⟩, readLater, later⟩ := exists_of_bind_eq_ok later
          cases later
          obtain ⟨between, separates, rfl⟩ := separates_of_readSeparator separated
          obtain ⟨parts, inside, rfl, lists, each⟩ := induction readLater
          obtain ⟨isGapFirst, writes⟩ := sound readFirst
          exact ⟨_, _, by simp only [List.append_assoc],
            .cons (separates.append_gap isGapFirst) lists, .cons writes each⟩

end Items

section Lists

variable {α : Type} {readItem : Reader α} {Writes : RawText → α → Prop}

theorem IsExact.readItems (exact : IsExact readItem Writes) {part : RawText} {items : List α}
    (writes : WritesList Writes part items) :
    ∃ behind, part = some '[' :: behind ∧ ∀ rest,
      readItems readItem ((behind ++ rest).length + 1) true (behind ++ rest) =
        .ok (items, rest) := by
  have decided (inner : RawText) (item : α) (writes : Writes inner item) :
      IsSolid inner ∧ Decides readItem inner fun value => item = value :=
    ⟨exact.solid writes, fun rest stops => .inl ⟨item, rfl, exact.complete writes rest stops⟩⟩
  obtain ⟨behind, same, reads⟩ := exists_isDecision_list (fun item value => item = value)
    (writes.imp fun inner item _ => decided inner item)
  refine ⟨behind, same, fun rest => ?_⟩
  rcases reads rest with ⟨values, gives, read⟩ | ⟨never, -⟩
  · rw [List.forall₂_eq_eq_eq] at gives
    rwa [gives]
  · exact absurd (List.forall₂_same.mpr fun item _ => rfl) (never items)

theorem IsExact.writesList (exact : IsExact readItem Writes) {fuel : Nat} {behind rest : RawText}
    {items : List α} (read : Json.readItems readItem fuel true behind = .ok (items, rest)) :
    ∃ part, some '[' :: behind = part ++ rest ∧ WritesList Writes part items := by
  obtain ⟨parts, inside, rfl, lists, each⟩ := lists_of_readItems exact.sound read
  exact ⟨_, by simp, .brackets lists each⟩

end Lists

/-! ## Objects -/

theorem readColon_gap {gap : RawText} (isGap : Gap gap) (rest : RawText) :
    readColon (gap ++ some ':' :: rest) = .ok ((), rest) := by
  rw [readColon, skipSpace_gap isGap, skipSpace_of_solid (by decide)]
  rfl

theorem exists_gap_of_readColon {text rest : RawText} (read : readColon text = .ok ((), rest)) :
    ∃ gap, Gap gap ∧ text = gap ++ some ':' :: rest := by
  obtain ⟨gap, isGap, text_eq⟩ := exists_skipSpace_eq text
  unfold readColon at read
  split at read
  · cases read
  · rename_i skipped
    cases read
    exact ⟨gap, isGap, by rw [← skipped, ← text_eq]⟩
  · cases read

section Names

variable {strict : Bool}

theorem readName_end (first : Bool) {gap : RawText} (isGap : Gap gap) (rest : RawText) :
    readName strict first (gap ++ some '\x7d' :: rest) = .ok (none, rest) := by
  rw [readName, skipSpace_gap isGap, skipSpace_of_solid (by decide)]
  rfl

theorem readName_next {first : Bool} {between named : RawText} {name : Text}
    (separates : Separates first between) (writes : WritesString strict named name)
    (rest : RawText) :
    readName strict first (between ++ (named ++ rest)) = .ok (some name, rest) := by
  obtain ⟨behind, rfl, reads⟩ := writes.readString
  have finish (next : Text × RawText → Except ReadError (Option Text × RawText)) :
      readString strict (behind ++ rest) >>= next = next (name, rest) := by
    rw [reads]
    rfl
  have solid := skipSpace_of_solid (c := '"') (by decide) (behind ++ rest)
  cases separates with
  | first isGap =>
      rw [readName, skipSpace_gap isGap, List.cons_append, solid]
      exact finish _
  | next isGap isGapBehind =>
      rw [readName, List.append_assoc, skipSpace_gap isGap, List.cons_append,
        skipSpace_of_solid (by decide)]
      split
      · rename_i same
        cases same
      · rename_i same
        cases same
      · rename_i same
        cases same
        rw [if_neg Bool.false_ne_true, if_pos rfl, skipSpace_gap isGapBehind, List.cons_append,
          solid]
        exact finish _

theorem exists_gap_of_readName {first : Bool} {text rest : RawText}
    (read : readName strict first text = .ok (none, rest)) :
    ∃ gap, Gap gap ∧ text = gap ++ some '\x7d' :: rest := by
  obtain ⟨gap, isGap, text_eq⟩ := exists_skipSpace_eq text
  unfold readName at read
  split at read
  · cases read
  · rename_i skipped
    cases read
    exact ⟨gap, isGap, by rw [← skipped, ← text_eq]⟩
  · obtain ⟨start, -, later⟩ := exists_of_bind_eq_ok read
    split at later
    case h_2 =>
      obtain ⟨_, -, ⟨⟩⟩ := exists_of_bind_eq_ok later
    all_goals cases later

theorem writesString_of_readName {first : Bool} {text rest : RawText} {name : Text}
    (read : readName strict first text = .ok (some name, rest)) :
    ∃ between named, Separates first between ∧ WritesString strict named name ∧
      text = between ++ (named ++ rest) := by
  obtain ⟨gap, isGap, text_eq⟩ := exists_skipSpace_eq text
  unfold readName at read
  split at read
  · cases read
  · cases read
  · rename_i c? behind notEnd skipped
    obtain ⟨start, started, later⟩ := exists_of_bind_eq_ok read
    have separated : ∃ between, Separates first between ∧ text = between ++ start := by
      cases first with
      | true =>
          cases started
          exact ⟨gap, .first isGap, by rw [text_eq, skipped]⟩
      | false =>
          rw [if_neg Bool.false_ne_true] at started
          split_ifs at started with comma
          · subst comma
            obtain ⟨gapBehind, isGapBehind, behind_eq⟩ := exists_skipSpace_eq behind
            cases started
            refine ⟨_, .next isGap isGapBehind, ?_⟩
            rw [text_eq, skipped, List.append_assoc, List.cons_append, ← behind_eq]
          · cases started
    obtain ⟨between, separates, rfl⟩ := separated
    split at later
    case h_2 =>
      obtain ⟨⟨found, after⟩, readFound, later⟩ := exists_of_bind_eq_ok later
      cases later
      obtain ⟨named, rfl, writes⟩ := writesString_of_readString readFound
      exact ⟨between, _, separates, writes, by simp⟩
    all_goals cases later

end Names

section Members

variable {α : Type} {strict : Bool} {readValue : Reader α} {Writes : RawText → α → Prop}

theorem IsExact.readMembers_lists (exact : IsExact readValue Writes) {first : Bool}
    {parts : List RawText} {inside : RawText} {members : List (Text × α)}
    (lists : Lists first parts inside)
    (each : List.Forall₂ (WritesMember strict fun _ => Writes) parts members) {fuel : Nat}
    (enough : parts.length < fuel) (rest : RawText) :
    readMembers strict readValue fuel first (inside ++ some '\x7d' :: rest) =
      .ok (members, rest) := by
  induction lists generalizing members fuel with
  | nil first isGap =>
      cases each
      obtain ⟨fuel, rfl⟩ : ∃ less, fuel = less + 1 := ⟨fuel - 1, by omega⟩
      rw [readMembers, readName_end first isGap]
      rfl
  | cons separates later induction =>
      obtain _ | ⟨⟨writesName, isGap, isGapBehind, writes⟩, each⟩ := each
      obtain ⟨fuel, rfl⟩ : ∃ less, fuel = less + 1 := ⟨fuel - 1, by omega⟩
      have noDigit : continuesNumber '\x7d' = false := by decide
      have readFirst := exact.complete writes _ (later.stopsNumber noDigit rest)
      have readLater := induction each (Nat.lt_of_succ_lt_succ enough)
      simp only [List.append_assoc, List.cons_append]
      rw [readMembers, readName_next separates writesName]
      simp only [bind, Except.bind, readColon_gap isGap, reader_gap exact.skips isGapBehind,
        readFirst, readLater]
      rfl

theorem IsExact.readMembers (exact : IsExact readValue Writes) {part : RawText}
    {members : List (Text × α)} (writes : WritesObject strict (fun _ => Writes) part members) :
    ∃ behind, part = some '\x7b' :: behind ∧ ∀ rest,
      readMembers strict readValue ((behind ++ rest).length + 1) true (behind ++ rest) =
        .ok (members, rest) := by
  obtain @⟨parts, inside, _, lists, each⟩ := writes
  refine ⟨inside ++ [some '\x7d'], rfl, fun rest => ?_⟩
  have shorter := lists.length_le_of_forall₂ each fun part member writes => writes.isSolid
  have enough : parts.length < (inside ++ some '\x7d' :: rest).length + 1 := by
    rw [List.length_append]
    omega
  rw [List.append_assoc, List.singleton_append]
  exact exact.readMembers_lists lists each enough rest

theorem IsExact.lists_of_readMembers (exact : IsExact readValue Writes) {fuel : Nat} {first : Bool}
    {text rest : RawText} {members : List (Text × α)}
    (read : Json.readMembers strict readValue fuel first text = .ok (members, rest)) :
    ∃ parts inside, text = inside ++ some '\x7d' :: rest ∧ Lists first parts inside ∧
      List.Forall₂ (WritesMember strict fun _ => Writes) parts members := by
  induction fuel generalizing first text members with
  | zero => cases read
  | succ fuel induction =>
      obtain ⟨⟨name?, behind⟩, readFirst, later⟩ := exists_of_bind_eq_ok read
      cases name? with
      | none =>
          cases later
          obtain ⟨gap, isGap, rfl⟩ := exists_gap_of_readName readFirst
          exact ⟨[], gap, rfl, .nil first isGap, .nil⟩
      | some name =>
          obtain ⟨⟨⟨⟩, behindColon⟩, readMark, later⟩ := exists_of_bind_eq_ok later
          obtain ⟨⟨value, behindValue⟩, readPart, later⟩ := exists_of_bind_eq_ok later
          obtain ⟨⟨members, after⟩, readLater, later⟩ := exists_of_bind_eq_ok later
          cases later
          obtain ⟨between, named, separates, writesName, rfl⟩ := writesString_of_readName readFirst
          obtain ⟨gap, isGap, rfl⟩ := exists_gap_of_readColon readMark
          obtain ⟨isGapBehind, writes⟩ := exact.sound readPart
          obtain ⟨parts, inside, rfl, lists, each⟩ := induction readLater
          exact ⟨_, _, by simp, .cons separates lists,
            .cons (.pair writesName isGap isGapBehind writes) each⟩

theorem IsExact.writesObject (exact : IsExact readValue Writes) {fuel : Nat}
    {behind rest : RawText} {members : List (Text × α)}
    (read : Json.readMembers strict readValue fuel true behind = .ok (members, rest)) :
    ∃ part, some '\x7b' :: behind = part ++ rest ∧
      WritesObject strict (fun _ => Writes) part members := by
  obtain ⟨parts, inside, rfl, lists, each⟩ := exact.lists_of_readMembers read
  exact ⟨_, by simp, .braces lists each⟩

end Members

end ProxyHistory.Json
