import ProxyHistory.Proofs.Selection.NewestCopies
import ProxyHistory.Proofs.Text.Search
import ProxyHistory.Proofs.Transaction
import ProxyHistory.Proofs.Url.Front

/-!
# What counts as a repetition

Two requests count as one if the texts that identify them are equal. Such a text joins a method, the
front of a URL, a query and a body without anything between them, so different requests can have the
same one. They are the same request exactly if the parts end at the same places and, where the query
already occurs in the front of the URL, what is cut off there is the same too.
-/

namespace ProxyHistory

namespace Transaction

/-- The transaction was built from raw messages. -/
def IsRecorded (transaction : Transaction) : Prop :=
  ∃ url request response?, ofMessages url request response? = .ok transaction

/-- Two requests agree in their methods, hosts, paths, queries and bodies. -/
structure SameRequest (first second : Transaction) : Prop where
  /-- The methods are the same. -/
  method : first.method = second.method
  /-- The hosts are the same. -/
  host : first.host = second.host
  /-- The paths are the same. -/
  path : first.path = second.path
  /-- The queries are the same. -/
  query : first.query = second.query
  /-- The bodies are the same. -/
  requestBody : first.requestBody = second.requestBody

/-- The query occurs in the URL before its question mark, so the URL is cut there. -/
def CutsEarly (transaction : Transaction) : Prop :=
  transaction.query ≠ [] ∧ '?' ∉ cutQuery transaction.url transaction.query

/-- The parts that identify two requests end at the same places, and what an early cut takes off the
URL is the same. -/
structure Aligned (first second : Transaction) : Prop where
  /-- The methods end at the same place. -/
  method : first.method.length = second.method.length
  /-- The queries are of one length. -/
  query : first.query.length = second.query.length
  /-- The bodies are of one length. -/
  requestBody : first.requestBody.length = second.requestBody.length
  /-- An early cut takes the same host and path off. -/
  front : second.CutsEarly → first.host = second.host ∧ first.path = second.path

theorem IsRecorded.exists_url {transaction : Transaction} (recorded : transaction.IsRecorded) :
    ∃ url : Url, url.WellFormed ∧ transaction.url = url.render ∧ transaction.host = url.host ∧
      transaction.path = url.path ∧ transaction.query = url.query := by
  obtain ⟨written, request, response?, built⟩ := recorded
  obtain ⟨url, method, read?, parsed, -, -, rfl⟩ := ofMessages_eq_ok_iff.mp built
  exact ⟨url, Url.parse_wellFormed parsed, rfl, rfl, rfl, rfl⟩

theorem exists_render_eq (url : Url) :
    ∃ tail, url.render = url.renderFront ++ tail ∧ ∀ c ∈ tail.head?, c ∈ Path.marksAfter := by
  unfold Url.render
  refine ⟨_, List.append_assoc .., ?_⟩
  cases url.query? with
  | none => cases url.fragment? <;> simp [Path.marksAfter]
  | some query => simp [Path.marksAfter]

/-- Unless the query already occurs in the front of the URL, what is left of the URL goes on after
the front with a mark, if it goes on at all. -/
theorem exists_cutQuery_eq {url : Url} (wellFormed : url.WellFormed)
    (late : url.query = [] ∨ '?' ∈ cutQuery url.render url.query) :
    ∃ more, cutQuery url.render url.query = url.renderFront ++ more ∧
      ∀ c ∈ more.head?, c ∈ Path.marksAfter := by
  obtain ⟨tail, written, mark⟩ := exists_render_eq url
  cases empty : url.query.isEmpty with
  | true => exact ⟨tail, by simp [cutQuery, empty, written], mark⟩
  | false =>
      cases found : Text.cutAt? url.query url.render with
      | none => exact ⟨tail, by rw [cutQuery, empty, found, ← written]; rfl, mark⟩
      | some parts =>
          obtain ⟨before, after⟩ := parts
          have cut : cutQuery url.render url.query = before := by
            simp [cutQuery, empty, found]
          rw [cut] at late ⊢
          have split := Text.cutAt?_eq_some found
          rw [written, List.append_eq_append_iff] at split
          rcases split with ⟨more, same, rest⟩ | ⟨more, same, -⟩
          · refine ⟨more, same, ?_⟩
            cases more with
            | nil => simp
            | cons c more => exact fun d member => mark d (by simpa [rest] using member)
          · have noMark : '?' ∉ before := fun member =>
              wellFormed.front_avoids '?' (by simp [same, member]) (by decide)
            simp [noMark] at late
            simp [late] at empty

/-- What is left of the URL tells the host and the path, unless the query already occurs in front of
the question mark. -/
theorem IsRecorded.eq_of_cutQuery_eq {first second : Transaction} (firstRecorded : first.IsRecorded)
    (secondRecorded : second.IsRecorded) (sameQuery : first.query = second.query)
    (same : cutQuery first.url first.query = cutQuery second.url second.query)
    (late : ¬ second.CutsEarly) : first.host = second.host ∧ first.path = second.path := by
  obtain ⟨firstUrl, firstWellFormed, firstText, firstHost, firstPath, firstQuery⟩ :=
    firstRecorded.exists_url
  obtain ⟨secondUrl, secondWellFormed, secondText, secondHost, secondPath, secondQuery⟩ :=
    secondRecorded.exists_url
  have secondLate : second.query = [] ∨ '?' ∈ cutQuery second.url second.query := by
    simpa [CutsEarly, Classical.or_iff_not_imp_left] using late
  have firstLate : first.query = [] ∨ '?' ∈ cutQuery first.url first.query := by
    rwa [same, sameQuery]
  rw [firstText, firstQuery] at firstLate
  rw [secondText, secondQuery] at secondLate
  rw [firstText, firstQuery, secondText, secondQuery] at same
  obtain ⟨firstMore, firstCut, firstMark⟩ := exists_cutQuery_eq firstWellFormed firstLate
  obtain ⟨secondMore, secondCut, secondMark⟩ := exists_cutQuery_eq secondWellFormed secondLate
  rw [firstCut, secondCut] at same
  have sameFront := (Text.eq_of_append_eq firstWellFormed.front_avoids
    secondWellFormed.front_avoids firstMark secondMark same).1
  rw [firstHost, secondHost, firstPath, secondPath]
  exact firstWellFormed.eq_of_renderFront_eq secondWellFormed sameFront

/-- Two recorded requests that are identified by the same text are the same exactly if their parts
are aligned. -/
theorem sameRequest_iff {first second : Transaction} (firstRecorded : first.IsRecorded)
    (secondRecorded : second.IsRecorded) (same : first.identity = second.identity) :
    SameRequest first second ↔ Aligned first second := by
  constructor
  · intro sameRequest
    exact {
      method := by rw [sameRequest.method]
      query := by rw [sameRequest.query]
      requestBody := by rw [sameRequest.requestBody]
      front := fun _ => ⟨sameRequest.host, sameRequest.path⟩ }
  · intro aligned
    unfold identity at same
    obtain ⟨sameFront, sameBody⟩ := List.append_inj' same aligned.requestBody
    obtain ⟨sameStart, sameQuery⟩ := List.append_inj' sameFront aligned.query
    obtain ⟨sameMethod, sameCut⟩ := List.append_inj sameStart aligned.method
    have sameUrl : first.host = second.host ∧ first.path = second.path := by
      by_cases early : second.CutsEarly
      · exact aligned.front early
      · exact firstRecorded.eq_of_cutQuery_eq secondRecorded sameQuery sameCut early
    exact ⟨sameMethod, sameUrl.1, sameUrl.2, sameQuery, sameBody⟩

end Transaction

namespace Selection

open Transaction (IsRecorded SameRequest Aligned)

/-- Each recorded transaction that satisfies all conditions has exactly one transaction standing for
it in an unlimited result, itself or another; it stands for the same request exactly if the two are
aligned. Fingerprints are taken to differ where the identifying texts do. -/
theorem exists_kept_sameRequest_iff (registry : FieldRegistry) (history : History)
    (fragments : List Text) (conditions : List Condition)
    (recorded : ∀ transaction ∈ history, transaction.IsRecorded)
    (free : ∀ first ∈ history, ∀ second ∈ history,
      first.fingerprint = second.fingerprint → first.identity = second.identity)
    (nonempty : fragments ≠ [])
    (read : fragments.map Condition.parse = conditions.map fun condition => .ok (some condition)) :
    ∃ kept, select registry history fragments 0 = .ok kept ∧
      ∀ transaction ∈ history, acceptsAll registry conditions transaction →
        ∃ standing ∈ kept, standing.identity = transaction.identity ∧
          (∀ other ∈ kept, other.identity = transaction.identity → other = standing) ∧
          (SameRequest standing transaction ↔ Aligned standing transaction) := by
  refine ⟨_, select_of_readConditions registry history 0 nonempty read, ?_⟩
  rw [limitTo, if_pos rfl]
  intro transaction member accepted
  have fromHistory : ∀ other ∈ newestCopies (acceptsAll registry conditions) history.reverse,
      other ∈ history := by
    intro other otherMember
    obtain ⟨newer, older, split, -⟩ := (mem_newestCopies_iff ..).mp otherMember
    rw [← List.mem_reverse, split]
    simp
  obtain ⟨standing, standingMember, sameFingerprint⟩ :=
    exists_mem_newestCopies (List.mem_reverse.mpr member) accepted
  have sameIdentity := free standing (fromHistory standing standingMember) transaction member
    sameFingerprint
  refine ⟨standing, standingMember, sameIdentity, ?_, ?_⟩
  · intro other otherMember otherSame
    apply eq_of_mem_newestCopies otherMember standingMember
    rw [Transaction.fingerprint, Transaction.fingerprint, otherSame, sameIdentity]
  · exact Transaction.sameRequest_iff (recorded standing (fromHistory standing standingMember))
      (recorded transaction member) sameIdentity

/-- The recording of a request that posts a body to a path of the local host. -/
def localPost (query request body : Text) : Transaction where
  method := "POST".toList
  url := "http://[::1]/p?".toList ++ query
  host := "[::1]".toList
  path := "/p".toList
  query
  request
  requestBody := body
  requestContentType := .none
  response? := none

/-- The headers of a request do not identify it. -/
theorem identity_localPost (query request other body : Text) :
    (localPost query request body).identity = (localPost query other body).identity := rfl

/-- A request is not lost if it is sent again with another header. -/
theorem exists_kept_sameRequest_iff_resent :
    let sent := localPost "x=1".toList "POST /p HTTP/1.1\r\n\r\n2".toList "2".toList
    let resent := localPost "x=1".toList "POST /p HTTP/1.1\r\nDNT: 1\r\n\r\n2".toList "2".toList
    ∃ kept, select .builtin [sent, resent] ["method = POST".toList] 0 = .ok kept ∧
      ∃ standing ∈ kept, SameRequest standing sent ↔ Aligned standing sent := by
  intro sent resent
  have sentRecorded : sent.IsRecorded :=
    ⟨"http://[::1]/p?x=1".toList, "POST /p HTTP/1.1\r\n\r\n2".toList, none, by rfl⟩
  have resentRecorded : resent.IsRecorded :=
    ⟨"http://[::1]/p?x=1".toList, "POST /p HTTP/1.1\r\nDNT: 1\r\n\r\n2".toList, none, by rfl⟩
  have recorded : ∀ transaction ∈ [sent, resent], transaction.IsRecorded := by
    simp [sentRecorded, resentRecorded]
  have identified : ∀ transaction ∈ [sent, resent], transaction.identity = sent.identity := by
    simp only [List.mem_cons, List.not_mem_nil, or_false, forall_eq_or_imp, forall_eq]
    exact ⟨trivial, identity_localPost ..⟩
  obtain ⟨kept, selected, represented⟩ :=
    exists_kept_sameRequest_iff .builtin [sent, resent] ["method = POST".toList]
      [.standard "method".toList .eq (.text "POST".toList)] recorded
      (fun first firstMember second secondMember _ =>
        (identified first firstMember).trans (identified second secondMember).symm)
      (by simp) (by rfl)
  obtain ⟨standing, member, -, -, aligned⟩ := represented sent (by simp) (by rfl)
  exact ⟨kept, selected, standing, member, aligned⟩

/-- Where the query of a newer request goes on as the body of an older one does, the older one is
lost, though the two are not the same. -/
theorem exists_dropped_not_sameRequest :
    ∃ older newer : Transaction, older.IsRecorded ∧ newer.IsRecorded ∧
      older.identity = newer.identity ∧
      acceptsAll .builtin [.standard "method".toList .eq (.text "POST".toList)] older ∧
      select .builtin [older, newer] ["method = POST".toList] 0 = .ok [newer] ∧
      ¬ SameRequest newer older := by
  let older := localPost "x=1".toList "POST /p HTTP/1.1\r\n\r\n2".toList "2".toList
  let newer := localPost "x=12".toList "POST /p HTTP/1.1\r\n\r\n".toList []
  have olderRecorded : older.IsRecorded :=
    ⟨"http://[::1]/p?x=1".toList, "POST /p HTTP/1.1\r\n\r\n2".toList, none, by rfl⟩
  have newerRecorded : newer.IsRecorded :=
    ⟨"http://[::1]/p?x=12".toList, "POST /p HTTP/1.1\r\n\r\n".toList, none, by rfl⟩
  have same : older.identity = newer.identity := by decide
  have known : older.fingerprint = newer.fingerprint := by
    rw [Transaction.fingerprint, same, ← Transaction.fingerprint]
  let conditions : List Condition := [.standard "method".toList .eq (.text "POST".toList)]
  have olderAccepted : acceptsAll .builtin conditions older := by rfl
  have newerAccepted : acceptsAll .builtin conditions newer := by rfl
  have selected : select .builtin [older, newer] ["method = POST".toList] 0 = .ok [newer] := by
    have read : ["method = POST".toList].map Condition.parse =
        conditions.map fun condition => .ok (some condition) := by rfl
    rw [select_of_readConditions .builtin [older, newer] 0 (by simp) read, limitTo, if_pos rfl,
      ← collect_eq_newestCopies]
    simp [collect, olderAccepted, newerAccepted, known]
  refine ⟨older, newer, olderRecorded, newerRecorded, same, olderAccepted, selected, ?_⟩
  intro sameRequest
  exact absurd sameRequest.query (by decide)

end Selection

end ProxyHistory
