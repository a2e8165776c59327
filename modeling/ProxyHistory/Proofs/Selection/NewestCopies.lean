import ProxyHistory.Engine

/-!
# The hits of a query

What the selection loop keeps, told without the loop: the accepted transactions that no newer
accepted one is a copy of, the newest first, cut to the limit. The loop carries the fingerprints of
what it kept; these are the fingerprints of all accepted transactions it has gone through, whether
kept or not, and that is the invariant of the induction.
-/

namespace ProxyHistory

namespace Selection

/-- A transaction is accepted, and none of the newer ones that are accepted is a copy of it. -/
def IsNewestCopy (accepts : Transaction → Bool) (newer : List Transaction)
    (transaction : Transaction) : Prop :=
  accepts transaction ∧
    ∀ other ∈ newer, accepts other → other.fingerprint ≠ transaction.fingerprint

instance (accepts : Transaction → Bool) (newer : List Transaction) (transaction : Transaction) :
    Decidable (IsNewestCopy accepts newer transaction) :=
  inferInstanceAs (Decidable (_ ∧ _))

/-- The accepted transactions of a list, of each request only the first one. -/
def newestCopies (accepts : Transaction → Bool) (newestFirst : List Transaction) :
    List Transaction :=
  (List.range newestFirst.length).filterMap fun position =>
    newestFirst[position]?.filter (IsNewestCopy accepts (newestFirst.take position) ·)

/-- The fingerprints in `seen` are those of the accepted transactions in `before`. -/
def Records (accepts : Transaction → Bool) (before : List Transaction) (seen : List Digest) :
    Prop :=
  ∀ fingerprint, fingerprint ∈ seen ↔
    ∃ transaction ∈ before, accepts transaction ∧ transaction.fingerprint = fingerprint

variable {accepts : Transaction → Bool} {before : List Transaction} {seen : List Digest}

theorem Records.nil : Records accepts [] [] := by
  simp [Records]

theorem Records.skip (records : Records accepts before seen) {transaction : Transaction}
    (rejected : ¬ accepts transaction) : Records accepts (before ++ [transaction]) seen := by
  intro fingerprint
  rw [records fingerprint]
  simp [or_and_right, exists_or, rejected]

theorem Records.repeated (records : Records accepts before seen) {transaction : Transaction}
    (known : transaction.fingerprint ∈ seen) : Records accepts (before ++ [transaction]) seen := by
  intro fingerprint
  rw [records fingerprint]
  constructor
  · rintro ⟨other, member, accepted, same⟩
    exact ⟨other, List.mem_append_left _ member, accepted, same⟩
  · rintro ⟨other, member, accepted, same⟩
    rcases List.mem_append.mp member with member | member
    · exact ⟨other, member, accepted, same⟩
    · rw [List.mem_singleton.mp member] at same
      exact (records fingerprint).mp (same ▸ known)

theorem Records.keep (records : Records accepts before seen) {transaction : Transaction}
    (accepted : accepts transaction) :
    Records accepts (before ++ [transaction]) (transaction.fingerprint :: seen) := by
  intro fingerprint
  rw [List.mem_cons, records fingerprint]
  constructor
  · rintro (same | ⟨other, member, otherAccepted, same⟩)
    · exact ⟨transaction, by simp, accepted, same.symm⟩
    · exact ⟨other, List.mem_append_left _ member, otherAccepted, same⟩
  · rintro ⟨other, member, otherAccepted, same⟩
    rcases List.mem_append.mp member with member | member
    · exact .inr ⟨other, member, otherAccepted, same⟩
    · rw [List.mem_singleton.mp member] at same
      exact .inl same.symm

/-- Whether a transaction is the newest copy can be read off the fingerprints seen. -/
theorem Records.isNewestCopy_iff (records : Records accepts before seen)
    (transaction : Transaction) :
    IsNewestCopy accepts before transaction ↔
      accepts transaction ∧ transaction.fingerprint ∉ seen := by
  rw [IsNewestCopy, records transaction.fingerprint]
  simp

/-- Where there is always room, the loop keeps the newest copies. -/
theorem collect_none (records : Records accepts before seen) (rest : List Transaction) :
    collect accepts none seen rest =
      (List.range rest.length).filterMap fun position =>
        rest[position]?.filter (IsNewestCopy accepts (before ++ rest.take position) ·) := by
  induction rest generalizing before seen with
  | nil => rfl
  | cons transaction rest induction =>
      have later : ∀ position,
          before ++ (transaction :: rest).take (position + 1) =
            (before ++ [transaction]) ++ rest.take position := by
        simp
      rw [List.length_cons, List.range_succ_eq_map, List.filterMap_cons, List.filterMap_map]
      simp only [Function.comp_def, Nat.succ_eq_add_one, List.getElem?_cons_succ,
        List.getElem?_cons_zero, List.take_zero, List.append_nil, later, Option.filter_some,
        decide_eq_true_eq, records.isNewestCopy_iff transaction]
      by_cases accepted : accepts transaction
      · by_cases known : transaction.fingerprint ∈ seen
        · rw [← induction (records.repeated known)]
          simp [collect, accepted, known]
        · rw [← induction (records.keep accepted)]
          simp [collect, accepted, known]
      · rw [← induction (records.skip accepted)]
        simp [collect, accepted]

/-- Where there is room for `room` transactions, the loop stops after the first `room` that it would
keep otherwise. -/
theorem collect_some (accepts : Transaction → Bool) (room : Nat) (seen : List Digest)
    (newestFirst : List Transaction) :
    collect accepts (some room) seen newestFirst =
      (collect accepts none seen newestFirst).take room := by
  induction newestFirst generalizing room seen with
  | nil => simp [collect]
  | cons transaction rest induction =>
      cases room with
      | zero => simp [collect]
      | succ room =>
          by_cases accepted : accepts transaction
          · by_cases known : transaction.fingerprint ∈ seen
            · simp [collect, accepted, known, induction]
            · simp [collect, accepted, known, induction]
          · simp [collect, accepted, induction]

theorem collect_eq_newestCopies (accepts : Transaction → Bool) (newestFirst : List Transaction) :
    collect accepts none [] newestFirst = newestCopies accepts newestFirst := by
  rw [collect_none Records.nil]
  rfl

theorem mem_newestCopies_iff (accepts : Transaction → Bool) (newestFirst : List Transaction)
    (transaction : Transaction) :
    transaction ∈ newestCopies accepts newestFirst ↔
      ∃ newer older, newestFirst = newer ++ transaction :: older ∧
        IsNewestCopy accepts newer transaction := by
  simp only [newestCopies, List.mem_filterMap, List.mem_range, Option.filter_eq_some_iff,
    decide_eq_true_eq]
  constructor
  · rintro ⟨position, bound, found, newest⟩
    obtain ⟨_, rfl⟩ := List.getElem?_eq_some_iff.mp found
    refine ⟨newestFirst.take position, newestFirst.drop (position + 1), ?_, newest⟩
    rw [List.getElem_cons_drop, List.take_append_drop]
  · rintro ⟨newer, older, rfl, newest⟩
    exact ⟨newer.length, by simp, by simp, by simpa using newest⟩

theorem exists_mem_newestCopies {accepts : Transaction → Bool} {newestFirst : List Transaction}
    {transaction : Transaction} (member : transaction ∈ newestFirst)
    (accepted : accepts transaction) :
    ∃ kept ∈ newestCopies accepts newestFirst, kept.fingerprint = transaction.fingerprint := by
  let isCopy (other : Transaction) : Bool :=
    accepts other && other.fingerprint == transaction.fingerprint
  obtain ⟨kept, found⟩ : ∃ kept, newestFirst.find? isCopy = some kept := by
    rw [← Option.isSome_iff_exists, List.find?_isSome]
    exact ⟨transaction, member, by simp [isCopy, accepted]⟩
  obtain ⟨keptIsCopy, newer, older, split, noCopy⟩ := List.find?_eq_some_iff_append.mp found
  obtain ⟨keptAccepted, same⟩ : accepts kept ∧ kept.fingerprint = transaction.fingerprint := by
    simpa [isCopy] using keptIsCopy
  refine ⟨kept, (mem_newestCopies_iff ..).mpr ⟨newer, older, split, keptAccepted, ?_⟩, same⟩
  intro other otherMember otherAccepted otherSame
  have isNoCopy := noCopy other otherMember
  simp [isCopy, otherAccepted, otherSame, same] at isNoCopy

theorem eq_of_mem_newestCopies {accepts : Transaction → Bool}
    {newestFirst : List Transaction} {first second : Transaction}
    (firstMember : first ∈ newestCopies accepts newestFirst)
    (secondMember : second ∈ newestCopies accepts newestFirst)
    (same : first.fingerprint = second.fingerprint) : first = second := by
  obtain ⟨newer, older, split, newest⟩ := (mem_newestCopies_iff ..).mp firstMember
  obtain ⟨newer', older', split', newest'⟩ := (mem_newestCopies_iff ..).mp secondMember
  rw [split, List.append_eq_append_iff] at split'
  rcases split' with ⟨between, rfl, rest⟩ | ⟨between, rfl, rest⟩
  · cases between with
    | nil => exact (List.cons.inj rest).1
    | cons other between =>
        rw [List.cons_append, List.cons.injEq] at rest
        exact absurd same (newest'.2 first (by simp [rest.1]) newest.1)
  · cases between with
    | nil => exact (List.cons.inj rest).1.symm
    | cons other between =>
        rw [List.cons_append, List.cons.injEq] at rest
        exact absurd same.symm (newest.2 second (by simp [rest.1]) newest'.1)

theorem readConditions_eq {fragments : List Text} {conditions : List Condition}
    (read : fragments.map Condition.parse = conditions.map fun condition => .ok (some condition)) :
    readConditions fragments = .ok (some conditions) := by
  have mapped : fragments.mapM Condition.parse = .ok (conditions.map some) := by
    calc fragments.mapM Condition.parse
        = (fragments.map Condition.parse).mapM id := by
          rw [List.mapM_map, Function.id_comp]
      _ = conditions.mapM fun condition => Except.ok (some condition) := by
          rw [read, List.mapM_map]
          rfl
      _ = .ok (conditions.map some) := List.mapM_pure
  have present : (conditions.map some).mapM id = some conditions := by
    calc (conditions.map some).mapM id
        = conditions.mapM some := by
          rw [List.mapM_map, Function.id_comp]
      _ = some (conditions.map id) := List.mapM_pure
      _ = some conditions := by rw [List.map_id]
  rw [readConditions, mapped]
  simp [Except.map, present]

theorem collect_eq_limitTo (accepts : Transaction → Bool) (limit : Nat)
    (newestFirst : List Transaction) :
    collect accepts (if limit = 0 then none else some limit) [] newestFirst =
      limitTo limit (newestCopies accepts newestFirst) := by
  rw [limitTo]
  split
  · rw [collect_eq_newestCopies]
  · rw [collect_some, collect_eq_newestCopies]

/-- What the conditions select is the list of the newest copies among the transactions that satisfy
them all, cut to the limit. -/
theorem select_of_readConditions (registry : FieldRegistry) (history : History) (limit : Nat)
    {fragments : List Text} {conditions : List Condition} (nonempty : fragments ≠ [])
    (read : fragments.map Condition.parse = conditions.map fun condition => .ok (some condition)) :
    select registry history fragments limit =
      .ok (limitTo limit (newestCopies (acceptsAll registry conditions) history.reverse)) := by
  have conditioned : fragments.isEmpty = false := by
    simpa using nonempty
  rw [select, conditioned, readConditions_eq read, ← collect_eq_limitTo]
  rfl

/-- A conditioned query finds, the newest first and up to the limit, each transaction that satisfies
all conditions and of which no newer one that does is a copy; its rows are the projections of
these. -/
theorem execute_of_conditions (engine : Engine) (history : History) (limit : Nat)
    (fragments : List Text) (conditions : List Condition) (nonempty : fragments ≠ [])
    (read : fragments.map Condition.parse = conditions.map fun condition => .ok (some condition)) :
    ∃ hits,
      hits = limitTo limit
        (newestCopies (acceptsAll engine.registry conditions) history.reverse) ∧
      select engine.registry history fragments limit = .ok hits ∧
      ∀ text query, Query.parse text = .ok query →
        query.conditions = fragments → query.limit = limit →
        engine.execute text history =
          .ok (hits.map
            (Projection.row engine.registry
              (Projection.resolve engine.registry query.fields))) := by
  have selected := select_of_readConditions engine.registry history limit nonempty read
  refine ⟨_, rfl, selected, ?_⟩
  intro text query parsed sameConditions sameLimit
  have conditioned : query.conditions.isEmpty = false := by
    simpa [sameConditions] using nonempty
  have prepared : engine.prepare text = .ok query := by
    rw [Engine.prepare, parsed]
    simp [conditioned, bind, Except.bind, pure, Except.pure]
  rw [Engine.execute, prepared]
  simp only [bind, Except.bind, sameConditions, sameLimit, selected]
  rfl

/-- The newer request by another method is no hit, and it hides none. -/
theorem execute_of_conditions_twoMethods :
    let recorded (method : Text) : Transaction :=
      { method
        url := "http://a.test/".toList
        host := "a.test".toList
        path := "/".toList
        query := []
        request := []
        requestBody := []
        requestContentType := .unknown
        response? := none }
    ∃ hits, hits = [recorded "POST".toList] ∧
      Engine.execute ⟨.builtin, .required⟩ "SELECT url FROM proxy WHERE method = POST".toList
          [recorded "POST".toList, recorded "GET".toList] =
        .ok (hits.map (Projection.row .builtin ["url".toList])) := by
  intro recorded
  obtain ⟨hits, same, _, executed⟩ :=
    execute_of_conditions ⟨.builtin, .required⟩ [recorded "POST".toList, recorded "GET".toList] 0
      ["method = POST".toList] [.standard "method".toList .eq (.text "POST".toList)]
      (by simp) (by rfl)
  refine ⟨hits, same.trans (by rfl), ?_⟩
  have rows := executed "SELECT url FROM proxy WHERE method = POST".toList
    ⟨["url".toList], "proxy".toList, ["method = POST".toList], 0⟩ (by rfl) rfl rfl
  rw [rows]
  rfl

end Selection

end ProxyHistory
