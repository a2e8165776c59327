import ProxyHistory.Proofs.Query.Clauses

/-!
# Scanning a clause again

The conditions of a query are looked for in their clause as in a text of its own. The scan of the
whole text stands before the clause as at the start, up to a blank, and no word runs over its end,
so both scans find the same joining words. A fragment that they leave is not parted any further.
-/

namespace ProxyHistory.Query

theorem map_filter_between {before middle behind : List Nat} {start width : Nat}
    (inFront : ∀ position ∈ before, position < start)
    (inside : ∀ position ∈ middle, position < width) :
    ((before ++ (middle.map (· + start) ++ behind.map (· + (start + width)))).filter fun position =>
      start ≤ position ∧ position < start + width).map (· - start) = middle := by
  have none_before :
      before.filter (fun position => start ≤ position ∧ position < start + width) = [] := by
    refine List.filter_eq_nil_iff.mpr fun position member => ?_
    have := inFront position member
    simp only [decide_eq_true_eq]
    omega
  have all_inside : (middle.map (· + start)).filter
      (fun position => start ≤ position ∧ position < start + width) = middle.map (· + start) := by
    refine List.filter_eq_self.mpr fun moved member => ?_
    obtain ⟨position, found, rfl⟩ := List.mem_map.mp member
    have := inside position found
    simp only [decide_eq_true_eq]
    omega
  have none_behind : (behind.map (· + (start + width))).filter
      (fun position => start ≤ position ∧ position < start + width) = [] := by
    refine List.filter_eq_nil_iff.mpr fun moved member => ?_
    obtain ⟨position, -, rfl⟩ := List.mem_map.mp member
    simp only [decide_eq_true_eq]
    omega
  rw [List.filter_append, List.filter_append, none_before, all_inside, none_behind,
    List.nil_append, List.append_nil, List.map_map]
  exact List.map_id'' (fun position => Nat.add_sub_cancel position start) middle

/-- In a part that no word runs into or out of, a word occurs where it does in the whole text. -/
theorem keywordPositions_middle {word : Text} (isWord : IsWord word) {front middle back : Text}
    (closed : Closed front) (starts : StartsBlank (middle ++ back)) (apart : SetApart middle back) :
    keywordPositions word middle =
      ((keywordPositions word (front ++ (middle ++ back))).filter fun position =>
        front.length ≤ position ∧ position < front.length + middle.length).map
          (· - front.length) := by
  have positions_eq : keywordPositions word (front ++ (middle ++ back)) =
      keywordPositions word front ++
        ((keywordPositions word middle).map (· + front.length) ++
          (occurrences word (Scan.start.run middle) back).map
            (· + (front.length + middle.length))) := by
    have middle_eq : keywordPositions word (middle ++ back) =
        keywordPositions word middle ++
          (occurrences word (Scan.start.run middle) back).map (· + middle.length) :=
      occurrences_append isWord .start apart
    rw [keywordPositions_append_of_closed isWord closed starts, middle_eq, List.map_append,
      List.map_map]
    congr 2
    refine List.map_congr_left fun position _ => ?_
    rw [Function.comp_apply, Nat.add_assoc, Nat.add_comm middle.length]
  rw [positions_eq]
  exact (map_filter_between (fun _ => lt_length_of_mem_keywordPositions isWord.ne_nil)
    fun _ => lt_length_of_mem_keywordPositions isWord.ne_nil).symm

/-- The text in front of the conditions leaves no quote open, a blank follows it, and no word runs
over the end of the conditions. -/
theorem Clauses.Located.exists_conditions {text : Text} {clauses : Clauses}
    (located : clauses.Located text) {span : Span} (found : clauses.conditionSpan? = some span) :
    ∃ front middle back, text = front ++ (middle ++ back) ∧
      span = ⟨front.length, front.length + middle.length⟩ ∧ Closed front ∧
      StartsBlank (middle ++ back) ∧ SetApart middle back := by
  obtain ⟨position, where_eq, rfl⟩ := Option.map_eq_some_iff.mp found
  have inWhere := located.mem_where position where_eq
  rcases kept : clauses.limitAt?.filter (position < ·) with _ | limitAt
  · obtain ⟨front, written, rest, rfl, rfl, settled, same, starts⟩ :=
      (mem_occurrences_iff isWord_whereKeyword.ne_nil).mp inWhere
    refine ⟨front ++ written, rest, [], by simp, ?_,
      Settled.closed_append settled (isWord_whereKeyword.of_same same), by simpa using starts,
      .inr (.of_blank Text.Blank.nil)⟩
    rw [Clauses.stopBefore, kept, Option.getD_none, located.length, ← List.append_assoc,
      List.length_append, List.length_append, Text.length_eq_of_same same]
  · obtain ⟨limit_eq, behind⟩ := Option.filter_eq_some_iff.mp kept
    have inLimit := located.mem_limit limitAt limit_eq
    obtain ⟨front, written, middle, back, rfl, rfl, length_eq, settled, same, starts, ne_nil,
        middleSettled⟩ :=
      exists_between isWord_whereKeyword isWord_limitKeyword inWhere inLimit
        (of_decide_eq_true behind)
    refine ⟨front ++ written, middle, back, by simp, ?_,
      Settled.closed_append settled (isWord_whereKeyword.of_same same),
      starts.append_of_ne_nil ne_nil back, middleSettled.setApart back⟩
    rw [Clauses.stopBefore, kept, Option.getD_some, List.length_append, length_eq,
      Text.length_eq_of_same same]

theorem fragments_of_mem_fragments {clause fragment : Text} (member : fragment ∈ fragments clause) :
    fragments fragment = [fragment] := by
  have whole := keywordPositions_of_mem_fragments fragment member
  obtain ⟨inSpans, nonempty⟩ := List.mem_filter.mp member
  obtain ⟨span, -, rfl⟩ := List.mem_map.mp inSpans
  rw [fragments_of_whole whole, Text.trim_trim]
  exact List.filter_eq_self.mpr (List.forall_mem_singleton.mpr nonempty)

/-- The joining words that are found in the conditions by themselves are those of the whole text
between their ends, and the fragments in between are not parted again. -/
theorem conditions_rescanned {input : Text} {query : Query} {clauses : Clauses} {span : Span}
    (parsed : parse input = .ok query)
    (located : Clauses.locate (Text.trim input) = .ok clauses)
    (found : clauses.conditionSpan? = some span) :
    keywordPositions andKeyword (span.of (Text.trim input)) =
        ((keywordPositions andKeyword (Text.trim input)).filter fun position =>
          span.start ≤ position ∧ position < span.stop).map (· - span.start) ∧
      query.conditions = fragments (span.of (Text.trim input)) ∧
      (∀ fragment ∈ query.conditions,
        keywordPositions andKeyword fragment = [] ∧ fragments fragment = [fragment]) ∧
      query.conditions.flatMap fragments = query.conditions := by
  have conditions_eq : query.conditions = fragments (span.of (Text.trim input)) := by
    obtain ⟨clauses', located', -, -, rfl⟩ := parse_eq_ok_iff.mp parsed
    obtain rfl : clauses' = clauses := by
      rw [← Clauses.locate_eq_ok_iff, located] at located'
      exact (Except.ok.inj located').symm
    rw [found]
    rfl
  have each : ∀ fragment ∈ query.conditions,
      keywordPositions andKeyword fragment = [] ∧ fragments fragment = [fragment] := by
    intro fragment member
    rw [conditions_eq] at member
    exact ⟨keywordPositions_of_mem_fragments fragment member, fragments_of_mem_fragments member⟩
  refine ⟨?_, conditions_eq, each, ?_⟩
  · obtain ⟨front, middle, back, text_eq, rfl, closed, starts, apart⟩ :=
      (Clauses.locate_eq_ok_iff.mp located).exists_conditions found
    rw [text_eq, Span.of_middle]
    exact keywordPositions_middle isWord_andKeyword closed starts apart
  · calc query.conditions.flatMap fragments
        = query.conditions.flatMap fun fragment => [fragment] :=
          List.flatMap_congr fun fragment member => (each fragment member).2
      _ = query.conditions := List.flatMap_singleton' _

/-- The limit stands in front of the conditions, one joining word stands in a closed quote, and one
in a quote that stays open. -/
theorem conditions_rescanned_unclosed :
    let input : Text := "select url from p limit 2 where a like 'b and' AND c = \"d and e ".toList
    let conditions : List Text := ["a like 'b and'".toList, "c = \"d and e".toList]
    parse input = .ok ⟨["url".toList], "p".toList, conditions, 2⟩ ∧
      keywordPositions andKeyword (Text.trim input) = [47] ∧
      (∀ fragment ∈ conditions, fragments fragment = [fragment]) ∧
      keywordPositions andKeyword ((⟨31, 63⟩ : Span).of (Text.trim input)) = [16] := by
  intro input conditions
  have located : Clauses.Located (Text.trim input) ⟨0, 11, some 26, some 18, 63⟩ :=
    ⟨by decide, by decide, by decide, by decide, by decide, by decide⟩
  have parsed : parse input = .ok ⟨["url".toList], "p".toList, conditions, 2⟩ :=
    parse_eq_ok_iff.mpr ⟨_, located, by decide, by decide, by decide⟩
  have positions : keywordPositions andKeyword (Text.trim input) = [47] := by decide
  obtain ⟨rescanned, -, whole, -⟩ :=
    conditions_rescanned parsed (Clauses.locate_eq_ok_iff.mpr located) rfl
  refine ⟨parsed, positions, fun fragment member => (whole fragment member).2, ?_⟩
  exact rescanned.trans (by rw [positions]; rfl)

end ProxyHistory.Query
