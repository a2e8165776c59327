import ProxyHistory.Proofs.Json.Fields

/-!
# Records are read exactly

Whether a value makes up a record, and with which values of its fields, can be told from the value
itself. Reading one of its written forms comes to the same, whatever else stands in an object and
however deep that nests, and what is read as a record is such a form.
-/

namespace ProxyHistory.Json

/-! ## Written records -/

/-- Some field takes the members of the name. -/
def isWanted (fields : List Field) (name : Text) : Bool :=
  fields.any (·.name == name)

/-- No wanted name comes twice. -/
def HasOnce (fields : List Field) (names : List Text) : Prop :=
  names.Pairwise fun first second => isWanted fields first = true → first ≠ second

/-- The text is the value of a member, which is read in the strict way only if it is wanted. -/
def WritesEntry (fields : List Field) (name : Text) (part : RawText) (value : Json) : Prop :=
  ∃ depth, WritesValue (isWanted fields name) depth part value

/-- The text is an object or an array that may be a record of the fields. The members stand as they
are written, with those that are not wanted. -/
inductive WritesItem (fields : List Field) : RawText → Json → Prop
  | object {part : RawText} {members : List (Text × Json)}
      (writes : WritesObject true (WritesEntry fields) part members)
      (once : HasOnce fields (members.map (·.1))) : WritesItem fields part (.object members)
  | array {part : RawText} {items : List Json}
      (writes : WritesList (fun part item => ∃ depth, WritesValue true depth part item) part items) :
      WritesItem fields part (.array items)

/-- The text is a record with the values of its fields. -/
def WritesRecord (fields : List Field) (part : RawText) (values : List Json) : Prop :=
  ∃ item, WritesItem fields part item ∧ IsRecord fields item values

variable {depth : Nat}

/-! ## Records in arrays -/

theorem fieldValues?_cons (field : Field) (fields : List Field) (item : Json) (items : List Json) :
    fieldValues? (field :: fields) (.array (item :: items)) =
      (fieldValues? fields (.array items)).map (item :: ·) := by
  simp only [fieldValues?, List.length_cons, Nat.add_le_add_iff_right, Nat.add_sub_add_right]
  split <;> rfl

theorem isRecord_cons_iff {field : Field} {fields : List Field} {item : Json}
    {items values : List Json} :
    IsRecord (field :: fields) (.array (item :: items)) values ↔
      ∃ later, values = item :: later ∧ field.Admits item ∧
        IsRecord fields (.array items) later := by
  rw [IsRecord, fieldValues?_cons]
  constructor
  · rintro ⟨valued, admits⟩
    obtain ⟨later, laterValued, rfl⟩ := Option.map_eq_some_iff.mp valued
    obtain ⟨first, others⟩ := List.forall₂_cons.mp admits
    exact ⟨later, rfl, first, laterValued, others⟩
  · rintro ⟨later, rfl, first, laterValued, others⟩
    exact ⟨by rw [laterValued]; rfl, .cons first others⟩

/-- An array that ends early makes up a record if what is missing may be. -/
theorem isDecision_complete {fields : List Field} (are : AreFields fields) (rest : RawText) :
    IsDecision (IsRecord fields (.array [])) rest (do
      let values ← complete [] fields
      return (values, rest)) := by
  have valued : fieldValues? fields (.array []) = some (fields.map fun _ => .null) := by
    simp [fieldValues?, List.map_const']
  by_cases nullable : ∀ field ∈ fields, field.optional = true
  · refine .inl ⟨fields.map fun _ => .null, ⟨valued, ?_⟩, ?_⟩
    · rw [List.forall₂_map_right_iff, List.forall₂_same]
      exact fun field member => (are.admits_null_iff member).mpr (nullable field member)
    · rw [complete_eq [] fun field member _ => nullable field member]
      rfl
  · simp only [not_forall] at nullable
    obtain ⟨field, member, needed⟩ := nullable
    obtain ⟨error, fails⟩ := exists_complete_eq [] member rfl (by simpa using needed)
    refine .inr ⟨?_, error, by rw [fails]; rfl⟩
    rintro values ⟨same, admits⟩
    rw [valued, Option.some.injEq] at same
    rw [← same, List.forall₂_map_right_iff, List.forall₂_same] at admits
    exact needed ((are.admits_null_iff member).mp (admits field member))

theorem readRecordItems_end (first : Bool) (fields : List Field) {gap : RawText} (isGap : Gap gap)
    (rest : RawText) :
    readRecordItems depth first fields (gap ++ some ']' :: rest) = do
      let values ← complete [] fields
      return (values, rest) := by
  cases fields with
  | nil =>
      rw [readRecordItems, readArrayEnd, skipSpace_gap isGap, skipSpace_of_solid (by decide)]
      rfl
  | cons field fields =>
      rw [readRecordItems, readSeparator_end first isGap]
      rfl

theorem exists_readArrayEnd_eq {first : Bool} {between part : RawText}
    (separates : Separates first between) (solid : IsSolid part) (rest : RawText) :
    ∃ error, readArrayEnd (between ++ (part ++ rest)) = .error error := by
  have started : ∃ c behind, skipSpace (between ++ (part ++ rest)) = some c :: behind ∧
      c ≠ ']' := by
    cases separates with
    | first isGap =>
        rw [skipSpace_gap isGap, solid.skipSpace]
        obtain ⟨c, more, rfl, -, notEnd⟩ := solid
        exact ⟨c, more ++ rest, rfl, notEnd⟩
    | next isGap isGapBehind =>
        rw [List.append_assoc, skipSpace_gap isGap, List.cons_append,
          skipSpace_of_solid (by decide)]
        exact ⟨',', _, rfl, by decide⟩
  obtain ⟨c, behind, skipped, notEnd⟩ := started
  rw [readArrayEnd, skipped]
  split
  · exact ⟨_, rfl⟩
  · rename_i same
    cases same
    exact absurd rfl notEnd
  · split <;> exact ⟨_, rfl⟩
  · exact ⟨_, rfl⟩

/-- An array makes up a record if each of its items is taken by the field in its place. -/
theorem isDecision_record_items {fields : List Field} (are : AreFields fields) {first : Bool}
    {parts : List RawText} {inside : RawText} {items : List Json} (lists : Lists first parts inside)
    (each : List.Forall₂ (fun part item => IsSolid part ∧
      ∀ field ∈ fields, field.IsDecided depth part item) parts items) (rest : RawText) :
    IsDecision (IsRecord fields (.array items)) rest
      (readRecordItems depth first fields (inside ++ some ']' :: rest)) := by
  induction lists generalizing fields items with
  | nil first isGap =>
      cases each
      rw [readRecordItems_end first fields isGap]
      exact isDecision_complete are rest
  | cons separates later induction =>
      obtain _ | ⟨⟨solid, decided⟩, each⟩ := each
      rw [List.append_assoc, List.append_assoc]
      cases fields with
      | nil =>
          obtain ⟨error, fails⟩ := exists_readArrayEnd_eq separates solid (_ ++ some ']' :: rest)
          refine .inr ⟨?_, error, ?_⟩
          · rintro values ⟨valued, -⟩
            cases valued
          · rw [readRecordItems, fails]
            rfl
      | cons field fields =>
          rw [readRecordItems, readSeparator_next separates solid]
          have others : List.Forall₂ (fun part item => IsSolid part ∧
              ∀ field ∈ fields, field.IsDecided depth part item) _ _ :=
            each.imp fun part item both =>
              ⟨both.1, fun other member => both.2 other (List.mem_cons_of_mem field member)⟩
          refine (decided field List.mem_cons_self _ (later.stopsNumber (by decide) rest)).bind ?_ ?_
          · rintro value ⟨rfl, admits⟩
            refine (induction are.of_cons others).bind
              (fun values record => .inl ⟨value :: values, ?_, rfl⟩) ?_
            · exact isRecord_cons_iff.mpr ⟨values, rfl, admits, record⟩
            · intro values record
              obtain ⟨later, -, -, isRecord⟩ := isRecord_cons_iff.mp record
              exact ⟨later, isRecord⟩
          · intro values record
            obtain ⟨-, -, admits, -⟩ := isRecord_cons_iff.mp record
            exact ⟨_, rfl, admits⟩

theorem exists_gap_of_readArrayEnd {text rest : RawText} (read : readArrayEnd text = .ok rest) :
    ∃ gap, Gap gap ∧ text = gap ++ some ']' :: rest := by
  obtain ⟨gap, isGap, text_eq⟩ := exists_skipSpace_eq text
  unfold readArrayEnd at read
  split at read
  · cases read
  · rename_i skipped
    cases read
    exact ⟨gap, isGap, by rw [← skipped, ← text_eq]⟩
  · split at read <;> cases read
  · cases read

theorem lists_of_readRecordItems {fields : List Field} (are : AreFields fields) {first : Bool}
    {text rest : RawText} {values : List Json}
    (read : readRecordItems depth first fields text = .ok (values, rest)) :
    ∃ parts inside items, text = inside ++ some ']' :: rest ∧ Lists first parts inside ∧
      List.Forall₂ (fun part item => ∃ depth, WritesValue true depth part item) parts items ∧
        IsRecord fields (.array items) values := by
  induction fields generalizing first text values with
  | nil =>
      obtain ⟨after, ended, later⟩ := exists_of_bind_eq_ok read
      cases later
      obtain ⟨gap, isGap, rfl⟩ := exists_gap_of_readArrayEnd ended
      exact ⟨[], gap, [], rfl, .nil first isGap, .nil, rfl, .nil⟩
  | cons field fields induction =>
      obtain ⟨⟨more, start⟩, separated, later⟩ := exists_of_bind_eq_ok read
      cases more with
      | false =>
          obtain ⟨record, rfl⟩ := (isDecision_complete are start).gives later
          obtain ⟨gap, isGap, rfl⟩ := exists_gap_of_readSeparator separated
          exact ⟨[], gap, [], rfl, .nil first isGap, .nil, record⟩
      | true =>
          obtain ⟨⟨value, middle⟩, readFirst, later⟩ := exists_of_bind_eq_ok later
          obtain ⟨⟨values, after⟩, readLater, later⟩ := exists_of_bind_eq_ok later
          cases later
          obtain ⟨between, separates, rfl⟩ := separates_of_readSeparator separated
          obtain ⟨parts, inside, items, rfl, lists, each, record⟩ := induction are.of_cons readLater
          obtain ⟨isGap, writes⟩ := startsWith_of_readField readFirst
          exact ⟨_, _, _, by simp only [List.append_assoc],
            .cons (separates.append_gap isGap) lists, .cons writes.1 each,
            isRecord_cons_iff.mpr ⟨values, rfl, writes.2, record⟩⟩

/-! ## Records in objects -/

/-- The entries hold what fields have among the members, and otherwise what was there before. Each
such field takes its value. -/
structure Collects (fields : List Field) (before : Entries Json) (members : List (Text × Json))
    (entries : Entries Json) : Prop where
  found : ∀ field ∈ fields, entries.lookup field.name =
    (members.lookup field.name).or (before.lookup field.name)
  admits : ∀ field ∈ fields, ∀ value, members.lookup field.name = some value → field.Admits value

theorem collects_nil (fields : List Field) (before : Entries Json) :
    Collects fields before [] before where
  found _ _ := rfl
  admits _ _ _ found := by cases found

section Members

variable {fields : List Field} {member : Text × Json} {members : List (Text × Json)}
  {before entries : Entries Json}

theorem collects_skip_iff (unknown : ∀ field ∈ fields, field.name ≠ member.1) :
    Collects fields before (member :: members) entries ↔
      Collects fields before members entries := by
  have skipped {field : Field} (inside : field ∈ fields) :
      List.lookup field.name (member :: members) = members.lookup field.name := by
    rw [Entries.lookup_cons_eq, if_neg (unknown field inside)]
  constructor
  · rintro ⟨found, admits⟩
    refine ⟨fun field inside => ?_, fun field inside value held => ?_⟩
    · rw [found field inside, skipped inside]
    · exact admits field inside value (by rwa [skipped inside])
  · rintro ⟨found, admits⟩
    refine ⟨fun field inside => ?_, fun field inside value held => ?_⟩
    · rw [found field inside, skipped inside]
    · exact admits field inside value (by rwa [← skipped inside])

theorem collects_keep_iff (are : AreFields fields) {field : Field} (known : field ∈ fields)
    (named : field.name = member.1) (alone : member.1 ∉ members.map (·.1)) :
    Collects fields before (member :: members) entries ↔
      field.Admits member.2 ∧ Collects fields (member :: before) members entries := by
  have absent := Entries.lookup_eq_none_of_not_mem alone
  have lookup_eq (other : Field) : (List.lookup other.name (member :: members)).or
      (before.lookup other.name) =
        (members.lookup other.name).or (List.lookup other.name (member :: before)) := by
    rw [Entries.lookup_cons_eq, Entries.lookup_cons_eq]
    by_cases same : other.name = member.1
    · rw [if_pos same, if_pos same, same, absent]
      rfl
    · rw [if_neg same, if_neg same]
  have held (other : Field) (value : Json) :
      List.lookup other.name (member :: members) = some value ↔
        (other.name = member.1 ∧ member.2 = value) ∨ members.lookup other.name = some value := by
    rw [Entries.lookup_cons_eq]
    by_cases same : other.name = member.1
    · rw [if_pos same, same, absent]
      simp
    · simp [same]
  constructor
  · rintro ⟨found, admits⟩
    refine ⟨admits field known _ ((held field _).mpr (.inl ⟨named, rfl⟩)), ?_, ?_⟩
    · exact fun other inside => by rw [found other inside, lookup_eq]
    · exact fun other inside value later =>
        admits other inside value ((held other value).mpr (.inr later))
  · rintro ⟨first, found, admits⟩
    refine ⟨fun other inside => by rw [found other inside, lookup_eq],
      fun other inside value is => ?_⟩
    rcases (held other value).mp is with ⟨same, rfl⟩ | later
    · rwa [are.eq_of_name inside known (same.trans named.symm)]
    · exact admits other inside value later

end Members

theorem isWanted_of_find? {fields : List Field} {name : Text} {field : Field}
    (found : fields.find? (·.name == name) = some field) : isWanted fields name = true :=
  List.any_eq_true.mpr
    ⟨field, List.mem_of_find?_eq_some found, by simpa using List.find?_some found⟩

theorem not_isWanted_of_find? {fields : List Field} {name : Text}
    (found : fields.find? (·.name == name) = none) : isWanted fields name = false := by
  rw [isWanted, List.any_eq_false]
  exact List.find?_eq_none.mp found

theorem hasOnce_cons_iff {fields : List Field} {name : Text} {names : List Text} :
    HasOnce fields (name :: names) ↔
      (isWanted fields name = true → name ∉ names) ∧ HasOnce fields names := by
  rw [HasOnce, List.pairwise_cons]
  refine and_congr_left fun _ => ⟨fun alone wanted member => alone name member wanted rfl, ?_⟩
  rintro alone other member wanted rfl
  exact alone wanted member

/-- No wanted member has an entry before it is read. -/
def Fresh (fields : List Field) (before : Entries Json) (members : List (Text × Json)) : Prop :=
  ∀ member ∈ members, isWanted fields member.1 = true → before.lookup member.1 = none

theorem fresh_cons_iff {fields : List Field} {name : Text} (wanted : isWanted fields name = true)
    {value : Json} {before : Entries Json} {members : List (Text × Json)} :
    Fresh fields ((name, value) :: before) members ↔
      name ∉ members.map (·.1) ∧ Fresh fields before members := by
  simp only [Fresh, Entries.lookup_cons_eq]
  constructor
  · intro fresh
    refine ⟨fun member => ?_, fun other inside isWanted => ?_⟩
    · obtain ⟨other, inside, same⟩ := List.mem_map.mp member
      have absent := fresh other inside (by rw [same]; exact wanted)
      rw [if_pos same] at absent
      cases absent
    · have absent := fresh other inside isWanted
      split_ifs at absent
      exact absent
  · rintro ⟨alone, fresh⟩ other inside isWanted
    rw [if_neg fun same => alone (List.mem_map.mpr ⟨other, inside, same⟩)]
    exact fresh other inside isWanted

/-- What stands for a member decides the field of its name, and can be passed over if there is
none. -/
structure DecidesEntry (depth : Nat) (fields : List Field) (name : Text) (part : RawText)
    (value : Json) : Prop where
  solid : IsSolid part
  wanted : ∀ field ∈ fields, field.name = name → field.IsDecided depth part value
  unwanted : isWanted fields name = false → ∃ inner read, WritesValue false inner part read

/-- A member is passed over or decides its field, and the members behind it decide the others. -/
theorem isDecision_members {fields : List Field} (are : AreFields fields) {first : Bool}
    {parts : List RawText} {inside : RawText} {members : List (Text × Json)}
    (lists : Lists first parts inside)
    (each : List.Forall₂ (WritesMember true (DecidesEntry depth fields)) parts members)
    (once : HasOnce fields (members.map (·.1))) {before : Entries Json}
    (fresh : Fresh fields before members) {fuel : Nat} (enough : parts.length < fuel)
    (rest : RawText) :
    IsDecision (Collects fields before members) rest
      (readRecordMembers depth fields fuel first before (inside ++ some '\x7d' :: rest)) := by
  induction lists generalizing members before fuel with
  | nil first isGap =>
      cases each
      obtain ⟨fuel, rfl⟩ : ∃ less, fuel = less + 1 := ⟨fuel - 1, by omega⟩
      exact .inl ⟨before, collects_nil fields before,
        by rw [readRecordMembers, readName_end first isGap]; rfl⟩
  | @cons first between _ written parts separates later induction =>
      obtain _ | @⟨_, _, _, members, ⟨⟩, each⟩ := each
      rename_i named gap gapBehind part name value writesName isGap isGapBehind decides
      obtain ⟨fuel, rfl⟩ : ∃ less, fuel = less + 1 := ⟨fuel - 1, by omega⟩
      obtain ⟨freshFirst, freshOthers⟩ := List.forall_mem_cons.mp fresh
      obtain ⟨alone, onceOthers⟩ := hasOnce_cons_iff.mp once
      have noDigit : continuesNumber '\x7d' = false := by decide
      have stops := later.stopsNumber noDigit rest
      have readLater {entries : Entries Json} (fresh : Fresh fields entries members) :=
        induction each onceOthers fresh (Nat.lt_of_succ_lt_succ enough)
      simp only [List.append_assoc, List.cons_append]
      rw [readRecordMembers, readName_next separates writesName]
      simp only [bind, Except.bind, readColon_gap isGap]
      cases found : fields.find? (·.name == name) with
      | some field =>
          have known := List.mem_of_find?_eq_some found
          have same : field.name = name := by simpa using List.find?_some found
          have wanted := isWanted_of_find? found
          have notLater := alone wanted
          have decided := decides.wanted field known same _ stops
          rw [← reader_gap (readField_skips field) isGapBehind] at decided
          simp only [freshFirst wanted]
          refine IsDecision.congr ?_ fun entries =>
            (collects_keep_iff are known same notLater).symm
          refine decided.bind ?_ ?_
          · rintro _ ⟨rfl, admits⟩
            exact (readLater ((fresh_cons_iff wanted).mpr ⟨notLater, freshOthers⟩)).congr
              fun entries => (and_iff_right admits).symm
          · rintro entries ⟨admits, -⟩
            exact ⟨value, rfl, admits⟩
      | none =>
          have unwanted := not_isWanted_of_find? found
          have unknown : ∀ field ∈ fields, field.name ≠ name := by
            simpa using List.find?_eq_none.mp found
          -- What is passed over may nest deeper than records do, but no deeper than it is long.
          obtain ⟨inner, read, writes⟩ := decides.unwanted unwanted
          have deeper : WritesValue false
              (gapBehind ++ (part ++ (written ++ some '\x7d' :: rest))).length part read := by
            refine writes.of_length_le ?_
            simp only [List.length_append]
            omega
          have passed := (isExact_readValue false _).complete deeper _ stops
          rw [← reader_gap (isExact_readValue false _).skips isGapBehind] at passed
          simp only [passed]
          exact (readLater freshOthers).congr fun entries => (collects_skip_iff unknown).symm

theorem lists_of_readRecordMembers {fields : List Field} (are : AreFields fields) {fuel : Nat}
    {first : Bool} {before entries : Entries Json} {text rest : RawText}
    (read : readRecordMembers depth fields fuel first before text = .ok (entries, rest)) :
    ∃ parts inside members, text = inside ++ some '\x7d' :: rest ∧ Lists first parts inside ∧
      List.Forall₂ (WritesMember true (WritesEntry fields)) parts members ∧
        HasOnce fields (members.map (·.1)) ∧
          Fresh fields before members ∧ Collects fields before members entries := by
  induction fuel generalizing first before text with
  | zero => cases read
  | succ fuel induction =>
      obtain ⟨⟨name?, behind⟩, readFirst, later⟩ := exists_of_bind_eq_ok read
      cases name? with
      | none =>
          cases later
          obtain ⟨gap, isGap, rfl⟩ := exists_gap_of_readName readFirst
          exact ⟨[], gap, [], rfl, .nil first isGap, .nil, .nil, nofun, collects_nil fields _⟩
      | some name =>
          obtain ⟨between, named, separates, writesName, rfl⟩ := writesString_of_readName readFirst
          dsimp only at later
          cases found : fields.find? (·.name == name) with
          | some field =>
              have known := List.mem_of_find?_eq_some found
              have same : field.name = name := by simpa using List.find?_some found
              have wanted := isWanted_of_find? found
              simp only [found] at later
              cases held : before.lookup name with
              | some value =>
                  simp only [held] at later
                  cases later
              | none =>
                  simp only [held] at later
                  obtain ⟨⟨⟨⟩, behindColon⟩, readMark, later⟩ := exists_of_bind_eq_ok later
                  obtain ⟨⟨value, behindValue⟩, readPart, later⟩ := exists_of_bind_eq_ok later
                  obtain ⟨parts, inside, members, rfl, lists, each, once, fresh, collects⟩ :=
                    induction later
                  obtain ⟨gap, isGap, rfl⟩ := exists_gap_of_readColon readMark
                  obtain ⟨isGapBehind, writes⟩ := startsWith_of_readField readPart
                  obtain ⟨⟨inner, writes⟩, admits⟩ := writes
                  obtain ⟨notLater, freshOthers⟩ := (fresh_cons_iff wanted).mp fresh
                  have entry : WritesEntry fields name _ value :=
                    ⟨inner, by rw [wanted]; exact writes⟩
                  exact ⟨_, _, (name, value) :: members, by simp, .cons separates lists,
                    .cons (.pair writesName isGap isGapBehind entry) each,
                    hasOnce_cons_iff.mpr ⟨fun _ => notLater, once⟩,
                    List.forall_mem_cons.mpr ⟨fun _ => held, freshOthers⟩,
                    (collects_keep_iff are known same notLater).mpr ⟨admits, collects⟩⟩
          | none =>
              have unwanted := not_isWanted_of_find? found
              have unknown : ∀ field ∈ fields, field.name ≠ name := by
                simpa using List.find?_eq_none.mp found
              simp only [found] at later
              obtain ⟨⟨⟨⟩, behindColon⟩, readMark, later⟩ := exists_of_bind_eq_ok later
              obtain ⟨⟨value, behindValue⟩, readPart, later⟩ := exists_of_bind_eq_ok later
              obtain ⟨parts, inside, members, rfl, lists, each, once, fresh, collects⟩ :=
                induction later
              obtain ⟨gap, isGap, rfl⟩ := exists_gap_of_readColon readMark
              obtain ⟨isGapBehind, writes⟩ := (isExact_readValue false _).sound readPart
              have entry : WritesEntry fields name _ value :=
                ⟨_, by rw [unwanted]; exact writes⟩
              have notWanted : isWanted fields name ≠ true := by simp [unwanted]
              exact ⟨_, _, (name, value) :: members, by simp, .cons separates lists,
                .cons (.pair writesName isGap isGapBehind entry) each,
                hasOnce_cons_iff.mpr ⟨fun wanted => absurd wanted notWanted, once⟩,
                List.forall_mem_cons.mpr ⟨fun wanted => absurd wanted notWanted, fresh⟩,
                (collects_skip_iff unknown).mpr collects⟩

/-- What was collected completes to the values of the record, unless a field is missing that may not
be. -/
theorem isDecision_complete_members {fields : List Field} (are : AreFields fields)
    {members : List (Text × Json)} {entries : Entries Json}
    (collects : Collects fields [] members entries) (rest : RawText) :
    IsDecision (IsRecord fields (.object members)) rest (do
      let values ← complete entries fields
      return (values, rest)) := by
  have found {field : Field} (inside : field ∈ fields) :
      entries.lookup field.name = members.lookup field.name := by
    rw [collects.found field inside, List.lookup_nil, Option.or_none]
  have valued : fieldValues? fields (.object members) =
      some (fields.map fun field => (entries.lookup field.name).getD .null) := by
    rw [fieldValues?]
    exact congrArg some (List.map_congr_left fun field inside => by rw [found inside])
  by_cases missing : ∀ field ∈ fields, entries.lookup field.name = none → field.optional = true
  · refine .inl ⟨_, ⟨valued, ?_⟩, by rw [complete_eq entries missing]; rfl⟩
    rw [List.forall₂_map_right_iff, List.forall₂_same]
    intro field inside
    cases held : entries.lookup field.name with
    | some value => exact collects.admits field inside value (by rw [← found inside, held])
    | none => exact (are.admits_null_iff inside).mpr (missing field inside held)
  · simp only [not_forall] at missing
    obtain ⟨field, inside, absent, needed⟩ := missing
    obtain ⟨error, fails⟩ := exists_complete_eq entries inside absent (by simpa using needed)
    refine .inr ⟨?_, error, by rw [fails]; rfl⟩
    rintro values ⟨same, admits⟩
    rw [valued, Option.some.injEq] at same
    rw [← same, List.forall₂_map_right_iff, List.forall₂_same] at admits
    have null := admits field inside
    rw [absent] at null
    exact needed ((are.admits_null_iff inside).mp null)

theorem IsRecord.collects {fields : List Field} {members : List (Text × Json)} {values : List Json}
    (record : IsRecord fields (.object members) values) : Collects fields [] members members := by
  obtain ⟨valued, admits⟩ := record
  rw [← Option.some.inj valued, List.forall₂_map_right_iff, List.forall₂_same] at admits
  refine ⟨fun field inside => ?_, fun field inside value held => ?_⟩
  · rw [List.lookup_nil, Option.or_none]
  · have admitted := admits field inside
    rwa [held] at admitted

/-! ## Records -/

theorem isDecision_object {fields : List Field} (are : AreFields fields) {part : RawText}
    {members : List (Text × Json)}
    (writes : WritesObject true (DecidesEntry depth fields) part members)
    (once : HasOnce fields (members.map (·.1))) (rest : RawText) :
    IsDecision (IsRecord fields (.object members)) rest
      (readRecord (depth + 1) fields (part ++ rest)) := by
  obtain @⟨parts, inside, _, lists, each⟩ := writes
  have shorter := lists.length_le_of_forall₂ each fun part member writes => writes.isSolid
  have enough : parts.length < (inside ++ some '\x7d' :: rest).length + 1 := by
    rw [List.length_append]
    omega
  rw [List.cons_append, List.append_assoc, List.singleton_append, readRecord,
    skipSpace_of_solid (by decide)]
  refine (isDecision_members are lists each once (fun _ _ _ => rfl) enough rest).bind
    (fun entries collects => isDecision_complete_members are collects rest) ?_
  exact fun values record => ⟨members, record.collects⟩

theorem isDecision_array {fields : List Field} (are : AreFields fields) {part : RawText}
    {items : List Json}
    (writes : WritesList (fun part item => IsSolid part ∧
      ∀ field ∈ fields, field.IsDecided depth part item) part items) (rest : RawText) :
    IsDecision (IsRecord fields (.array items)) rest
      (readRecord (depth + 1) fields (part ++ rest)) := by
  obtain @⟨parts, inside, _, lists, each⟩ := writes
  rw [List.cons_append, List.append_assoc, List.singleton_append, readRecord,
    skipSpace_of_solid (by decide)]
  exact isDecision_record_items are lists each rest

theorem isDecision_other {fields : List Field} {part : RawText} {value : Json}
    (shows' : Shows part value) (noArray : ∀ items, value ≠ .array items)
    (noObject : ∀ members, value ≠ .object members) (rest : RawText) :
    IsDecision (IsRecord fields value) rest (readRecord depth fields (part ++ rest)) := by
  have never (values : List Json) : ¬ IsRecord fields value values := by
    rintro ⟨valued, -⟩
    cases value with
    | array items => exact noArray items rfl
    | object members => exact noObject members rfl
    | null | bool | integer | real | string => cases valued
  have skipped := shows'.isSolid.skipSpace rest
  obtain ⟨c, lead, more, part_eq⟩ := shows'.lead
  rw [readRecord, skipped, part_eq, List.cons_append]
  split
  · rename_i same
    cases same
  · rename_i same
    obtain ⟨items, is⟩ := (kind_of_mem_leads lead).2.2.1 (Option.some.inj (List.cons.inj same).1)
    exact absurd is (noArray items)
  · rename_i same
    obtain ⟨members, is⟩ := (kind_of_mem_leads lead).2.2.2 (Option.some.inj (List.cons.inj same).1)
    exact absurd is (noObject members)
  · exact isDecision_refuse never _ rest

theorem WritesItem.isSolid {fields : List Field} {part : RawText} {item : Json}
    (writes : WritesItem fields part item) : IsSolid part := by
  rcases writes with ⟨⟨-, -⟩, -⟩ | ⟨⟨-, -⟩⟩
  · exact ⟨'\x7b', _, rfl, by decide, by decide⟩
  · exact ⟨'[', _, rfl, by decide, by decide⟩

theorem writesItem_compact {fields : List Field} {members : List (Text × Json)}
    (plain : ∀ member ∈ members, member.2.IsPlain) (once : HasOnce fields (members.map (·.1))) :
    WritesItem fields (object members).compact.raw (.object members) := by
  refine .object (writesObject_compact (List.forall₂_same.mpr fun member inside => ?_)) once
  exact ⟨rfl, _, writesValue_compact (plain member inside) (Nat.le_refl _)⟩

section Strings

variable {fields : List Field} (are : AreFields fields)
  (strings : ∀ field ∈ fields, field.shape = .string)

include are strings

/-- Each written form of what may be a record of strings is read as one if it is one. -/
theorem isDecision_item {part : RawText} {item : Json} (writes : WritesItem fields part item)
    (rest : RawText) :
    IsDecision (IsRecord fields item) rest (readRecord (depth + 1) fields (part ++ rest)) := by
  cases writes with
  | object writes once =>
      refine isDecision_object are (writes.imp fun name inner value _ entry => ?_) once rest
      obtain ⟨inner, writes⟩ := entry
      refine ⟨writes.isSolid, fun field member same => ?_, fun unwanted => ?_⟩
      · have wanted : isWanted fields name = true :=
          List.any_eq_true.mpr ⟨field, member, by simpa using same⟩
        rw [wanted] at writes
        exact writes.shows.isDecided (strings field member)
      · rw [unwanted] at writes
        exact ⟨inner, value, writes⟩
  | array writes =>
      refine isDecision_array are (writes.imp fun inner item _ written => ?_) rest
      obtain ⟨depth, writes⟩ := written
      exact ⟨writes.isSolid, fun field member => writes.shows.isDecided (strings field member)⟩

/-- The compact form of a value is read as a record of strings if the value makes up one. -/
theorem isDecision_compact {value : Json} (distinct : value.HasDistinctNames) (rest : RawText) :
    IsDecision (IsRecord fields value) rest
      (readRecord (depth + 1) fields (value.compact.raw ++ rest)) := by
  have each {field : Field} (inside : field ∈ fields) (part : Json) :
      field.IsDecided depth part.compact.raw part :=
    (shows_compact part).isDecided (strings field inside)
  cases value with
  | array items =>
      refine isDecision_array are
        (writesList_compact (List.forall₂_same.mpr fun item _ => ?_)) rest
      exact ⟨isSolid_compact item, fun field member => each member item⟩
  | object members =>
      refine isDecision_object are
        (writesObject_compact (List.forall₂_same.mpr fun member _ => ?_)) ?_ rest
      · refine ⟨rfl, isSolid_compact member.2, fun field inside _ => each inside member.2, ?_⟩
        obtain ⟨read, writes, -⟩ :=
          exists_writesBack member.2 (nofun : false = true → member.2.IsPlain) (Nat.le_refl _)
        exact fun _ => ⟨_, read, writes⟩
      · rw [HasOnce]
        refine (distinct members rfl).imp ?_
        exact fun differ _ => differ
  | null | bool | integer | real | string =>
      exact isDecision_other (shows_compact _) (by nofun) (by nofun) rest

end Strings

theorem readRecord_skips (fields : List Field) (text : RawText) :
    readRecord depth fields (skipSpace text) = readRecord depth fields text := by
  rw [readRecord, readRecord, skipSpace_skipSpace]

theorem startsWith_of_readRecord {fields : List Field} (are : AreFields fields)
    {text rest : RawText} {values : List Json}
    (read : readRecord depth fields text = .ok (values, rest)) :
    StartsWith (WritesRecord fields) text values rest := by
  refine startsWith_of_skips ?_
  rw [readRecord] at read
  split at read
  · cases read
  · rename_i behind skipped
    obtain ⟨parts, inside, items, rfl, lists, each, record⟩ := lists_of_readRecordItems are read
    have writes : WritesRecord fields (some '[' :: (inside ++ [some ']'])) values :=
      ⟨_, .array (.brackets lists each), record⟩
    have starts := StartsWith.behind gap_nil writes rest
    rw [skipped]
    simpa using starts
  · rename_i behind skipped
    obtain ⟨⟨entries, after⟩, readMembers, later⟩ := exists_of_bind_eq_ok read
    obtain ⟨parts, inside, members, rfl, lists, each, once, -, collects⟩ :=
      lists_of_readRecordMembers are readMembers
    obtain ⟨record, rfl⟩ := (isDecision_complete_members are collects after).gives later
    have writes : WritesRecord fields (some '\x7b' :: (inside ++ [some '\x7d'])) values :=
      ⟨_, .object (.braces lists each) once, record⟩
    have starts := StartsWith.behind gap_nil writes rest
    rw [skipped]
    simpa using starts
  · exact absurd read refuse_ne_ok

/-! ## Lists of records -/

/-- A list is read as records if each of its items makes up one. -/
theorem isDecision_records {fields : List Field} {part gap : RawText} {items : List Json}
    (isGap : Gap gap)
    (writes : WritesList (fun part item => IsSolid part ∧
      ∀ rest, IsDecision (IsRecord fields item) rest (readRecord depth fields (part ++ rest)))
        part items)
    (rest : RawText) :
    IsDecision (List.Forall₂ (IsRecord fields) items) rest
      (readRecords (depth + 1) fields (gap ++ (part ++ rest))) := by
  obtain ⟨behind, rfl, decided⟩ := exists_isDecision_list (IsRecord fields)
    (writes.imp fun inner item _ decided => ⟨decided.1, fun rest _ => decided.2 rest⟩)
  rw [readRecords, skipSpace_gap isGap, List.cons_append, skipSpace_of_solid (by decide)]
  exact decided rest

theorem exists_items_of_records {fields : List Field} {parts : List RawText}
    {records : List (List Json)} (each : List.Forall₂ (WritesRecord fields) parts records) :
    ∃ items, List.Forall₂ (WritesItem fields) parts items ∧
      List.Forall₂ (IsRecord fields) items records := by
  induction each with
  | nil => exact ⟨[], .nil, .nil⟩
  | cons first _ induction =>
      obtain ⟨item, writes, record⟩ := first
      obtain ⟨items, writesAll, recordAll⟩ := induction
      exact ⟨item :: items, .cons writes writesAll, .cons record recordAll⟩

/-- What is read as a list of records is one. -/
theorem startsWith_of_readRecords {fields : List Field} (are : AreFields fields)
    {text rest : RawText} {records : List (List Json)}
    (read : readRecords depth fields text = .ok (records, rest)) :
    ∃ items, StartsWith (WritesList (WritesItem fields)) text items rest ∧
      List.Forall₂ (IsRecord fields) items records := by
  rw [readRecords] at read
  split at read
  · cases read
  · rename_i behind skipped
    obtain ⟨parts, inside, rfl, lists, each⟩ :=
      lists_of_readItems (startsWith_of_readRecord are) read
    obtain ⟨items, writesAll, recordAll⟩ := exists_items_of_records each
    refine ⟨items, startsWith_of_skips ?_, recordAll⟩
    have starts := StartsWith.behind gap_nil (WritesList.brackets lists writesAll) rest
    rw [skipped]
    simpa using starts
  · exact absurd read refuse_ne_ok

/-- Gaps are passed over, and surrogates make up one character. -/
example : readRecord depthLimit [⟨"query".toList, .string, false⟩]
    (Text.raw "\x7b \"\\u0071uery\" :\n\"\\/\\ud83d\\uDE00\" \x7d".toList) =
      .ok ([.string "/😀".toList], []) := by
  cbv

end ProxyHistory.Json
