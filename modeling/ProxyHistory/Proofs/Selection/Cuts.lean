import ProxyHistory.Proofs.Selection.Repeats

/-!
# Where a URL is cut

The URL by which a request is told from others is cut at the first occurrence of its query. That is
its question mark, and what is left tells the host and the path, unless the query already occurs in
front of its place in the URL.
-/

namespace ProxyHistory.Transaction

/-- The URL in front of its first question mark. -/
def front (transaction : Transaction) : Text :=
  transaction.url.takeWhile (· != '?')

/-- The query also occurs further in front, be it that the two occurrences overlap. -/
def OccursAhead (transaction : Transaction) : Prop :=
  transaction.query <:+: (transaction.front ++ ['?']) ++ transaction.query.dropLast

instance (transaction : Transaction) : Decidable transaction.OccursAhead :=
  decidable_of_iff (Text.includes _ _ = true) Text.includes_iff

/-- The query stands behind the first question mark, up to the end of the URL or its fragment. -/
structure AsksBehind (transaction : Transaction) (fragment : Text) : Prop where
  url : transaction.url = (transaction.front ++ ['?']) ++ (transaction.query ++ fragment)
  fragment : ∀ c ∈ fragment.head?, c = '#'

theorem IsRecorded.exists_asksBehind {transaction : Transaction} (recorded : transaction.IsRecorded)
    (asks : transaction.query ≠ []) : ∃ fragment, transaction.AsksBehind fragment := by
  obtain ⟨url, wellFormed, written, -, -, query_eq⟩ := recorded.exists_url
  have noMark : ∀ c ∈ url.renderFront, (c != '?') = true := by
    intro c member
    rw [bne_iff_ne]
    rintro rfl
    exact wellFormed.front_avoids '?' member (by decide)
  obtain ⟨fragment, tail_eq, marked⟩ : ∃ fragment,
      url.render = url.renderFront ++ '?' :: (transaction.query ++ fragment) ∧
        ∀ c ∈ fragment.head?, c = '#' := by
    rw [query_eq, Url.query] at asks ⊢
    unfold Url.render
    cases queried : url.query? with
    | none => simp [queried] at asks
    | some query =>
        cases url.fragment? with
        | none => exact ⟨[], by simp, by simp⟩
        | some fragment => exact ⟨'#' :: fragment, by simp, by simp⟩
  have front_eq : transaction.front = url.renderFront := by
    rw [front, written, tail_eq, List.takeWhile_append_of_pos noMark]
    simp
  refine ⟨fragment, ?_, marked⟩
  rw [front_eq, written, tail_eq, List.append_assoc, List.singleton_append]

section Asks

variable {transaction : Transaction} {fragment : Text}
  (asksBehind : transaction.AsksBehind fragment) (asks : transaction.query ≠ [])

include asksBehind asks

theorem exists_cutAt?_query : ∃ after,
    Text.cutAt? transaction.query transaction.url =
      some (cutQuery transaction.url transaction.query, after) := by
  obtain ⟨before, after, found, -⟩ :=
    Text.exists_cutAt? transaction.query (transaction.front ++ ['?']) fragment
  rw [← asksBehind.url] at found
  refine ⟨after, ?_⟩
  rw [cutQuery, if_neg (by simpa using asks), found]
  rfl

/-- The URL is cut behind its question mark exactly if the query does not occur in front of that. -/
theorem cutQuery_eq_iff :
    cutQuery transaction.url transaction.query = transaction.front ++ ['?'] ↔
      ¬ transaction.OccursAhead := by
  obtain ⟨after, found⟩ := exists_cutAt?_query asksBehind asks
  rw [OccursAhead, ← Text.exists_cutAt?_eq_some_iff asks _ fragment, ← asksBehind.url, found]
  constructor
  · intro same
    exact ⟨after, by rw [same]⟩
  · rintro ⟨other, same⟩
    exact (Prod.mk.inj (Option.some.inj same)).1

end Asks

/-- A recorded URL goes on behind its first question mark with the query, and it is cut in front of
the first occurrence of the query. If the query does not occur further in front, that is behind the
question mark, and what is left tells the host and the path; otherwise it is not. -/
theorem cutQuery_eq_front_iff {transaction : Transaction} (recorded : transaction.IsRecorded)
    (asks : transaction.query ≠ []) :
    (∃ fragment, transaction.AsksBehind fragment) ∧
      (cutQuery transaction.url transaction.query ++ transaction.query <+: transaction.url ∧
        ∀ before, before ++ transaction.query <+: transaction.url →
          (cutQuery transaction.url transaction.query).length ≤ before.length) ∧
      (cutQuery transaction.url transaction.query = transaction.front ++ ['?'] ↔
        ¬ transaction.OccursAhead) ∧
      (¬ transaction.OccursAhead → ∀ other : Transaction, other.IsRecorded →
        other.query = transaction.query →
          cutQuery other.url other.query = cutQuery transaction.url transaction.query →
            other.host = transaction.host ∧ other.path = transaction.path) := by
  obtain ⟨fragment, asksBehind⟩ := recorded.exists_asksBehind asks
  obtain ⟨after, found⟩ := exists_cutAt?_query asksBehind asks
  have cut_iff := cutQuery_eq_iff asksBehind asks
  refine ⟨⟨fragment, asksBehind⟩, ⟨⟨after, ?_⟩, ?_⟩, cut_iff, ?_⟩
  · rw [List.append_assoc]
    exact (Text.cutAt?_eq_some found).symm
  · rintro before ⟨rest, split⟩
    exact Text.length_le_of_cutAt? found (by rw [← split, List.append_assoc])
  · intro notAhead other otherRecorded sameQuery sameCut
    refine otherRecorded.eq_of_cutQuery_eq recorded sameQuery sameCut fun early => early.2 ?_
    rw [cut_iff.mpr notAhead]
    exact List.mem_append_right _ List.mem_cons_self

/-- A question mark inside the query does not matter, nor does a query that goes on as it starts. -/
theorem cutQuery_eq_front_iff_twoMarks :
    let sent := Selection.localPost "x=1?x=1".toList "POST /p HTTP/1.1\r\n\r\n".toList []
    sent.IsRecorded ∧ sent.query ≠ [] ∧
      cutQuery sent.url sent.query = "http://[::1]/p?".toList := by
  intro sent
  have recorded : sent.IsRecorded :=
    ⟨"http://[::1]/p?x=1?x=1".toList, "POST /p HTTP/1.1\r\n\r\n".toList, none, by rfl⟩
  have asks : sent.query ≠ [] := List.cons_ne_nil _ _
  obtain ⟨-, -, cut_iff, -⟩ := cutQuery_eq_front_iff recorded asks
  have notAhead : ¬ sent.OccursAhead := by decide
  have front_eq : sent.front = "http://[::1]/p".toList := by decide
  refine ⟨recorded, asks, ?_⟩
  rw [cut_iff.mpr notAhead, front_eq]
  rfl

/-- Where the name of the scheme holds the query, hosts and paths are cut off. -/
theorem exists_cutQuery_eq_of_path_ne :
    ∃ first second : Transaction, first.IsRecorded ∧ second.IsRecorded ∧ first.query ≠ [] ∧
      first.query = second.query ∧ first.path ≠ second.path ∧
      cutQuery first.url first.query = cutQuery second.url second.query ∧
      cutQuery first.url first.query ≠ first.front ++ ['?'] := by
  let asked (path : Text) : Transaction :=
    { method := "GET".toList
      url := "http://[::1]".toList ++ path ++ "?t".toList
      host := "[::1]".toList
      path
      query := "t".toList
      request := "GET / HTTP/1.1\r\n\r\n".toList
      requestBody := []
      requestContentType := .none
      response? := none }
  have firstRecorded : (asked "/x".toList).IsRecorded :=
    ⟨"http://[::1]/x?t".toList, "GET / HTTP/1.1\r\n\r\n".toList, none, by rfl⟩
  have secondRecorded : (asked "/y".toList).IsRecorded :=
    ⟨"http://[::1]/y?t".toList, "GET / HTTP/1.1\r\n\r\n".toList, none, by rfl⟩
  exact ⟨asked "/x".toList, asked "/y".toList, firstRecorded, secondRecorded, by decide, rfl,
    by decide, by decide, by decide⟩

end ProxyHistory.Transaction
