import ProxyHistory.Proofs.Query.Occurrences

/-!
# The fragments of a clause

A clause is read fragment by fragment: the first joining word ends the first fragment, and the text
after it is read as a clause of its own. Blanks around a clause do not matter.
-/

namespace ProxyHistory.Query

open Text (isBlank Blank sameIgnoringCase)

theorem isWord_andKeyword : IsWord andKeyword := by decide

/-- A span moved to the right. -/
def Span.shift (distance : Nat) (span : Span) : Span where
  start := span.start + distance
  stop := span.stop + distance

theorem Span.of_shift (span : Span) (left right : Text) :
    (span.shift left.length).of (left ++ right) = span.of right := by
  have stop_eq : (left ++ right).take (span.stop + left.length) = left ++ right.take span.stop := by
    rw [Nat.add_comm, List.take_length_add_append]
  rw [Span.of, Span.shift, stop_eq, Nat.add_comm, List.drop_length_add_append, Span.of]

theorem Span.of_left {span : Span} {left : Text} (within : span.stop ≤ left.length) (right : Text) :
    span.of (left ++ right) = span.of left := by
  rw [Span.of, List.take_append_of_le_length within, Span.of]

theorem Span.of_middle (left middle right : Text) :
    (⟨left.length, left.length + middle.length⟩ : Span).of (left ++ (middle ++ right)) =
      middle := by
  rw [Span.of, List.take_length_add_append, List.drop_left, List.take_left]

theorem Span.of_rest (left right : Text) :
    (⟨left.length, (left ++ right).length⟩ : Span).of (left ++ right) = right := by
  simpa using Span.of_middle left right []

theorem gaps_shift (width stop start distance : Nat) (positions : List Nat) :
    gaps width (stop + distance) (start + distance) (positions.map (· + distance)) =
      (gaps width stop start positions).map (Span.shift distance) := by
  induction positions generalizing start with
  | nil => rfl
  | cons position positions induction =>
      have later_eq := induction (position + width)
      rw [Nat.add_right_comm] at later_eq
      rw [List.map_cons, gaps, later_eq]
      rfl

theorem fragmentSpans_append {front written rest : Text} (settled : Settled front)
    (whole : keywordPositions andKeyword front = [])
    (same : sameIgnoringCase written andKeyword = true) (starts : StartsBlank rest) :
    fragmentSpans (front ++ (written ++ rest)) =
      ⟨0, front.length⟩ ::
        (fragmentSpans rest).map (Span.shift (front.length + written.length)) := by
  have positions_eq :
      keywordPositions andKeyword (front ++ (written ++ rest)) =
        front.length ::
          (keywordPositions andKeyword rest).map (· + (front.length + written.length)) := by
    rw [keywordPositions_append isWord_andKeyword settled, whole,
      keywordPositions_word_append isWord_andKeyword (isWord_andKeyword.of_same same) starts,
      if_pos same]
    simp only [List.cons_append, List.nil_append, List.map_cons, List.map_map, Nat.zero_add]
    congr 1
    refine List.map_congr_left fun position _ => ?_
    simp only [Function.comp_apply]
    omega
  have length_eq : (front ++ (written ++ rest)).length =
      rest.length + (front.length + written.length) := by
    simp only [List.length_append]
    omega
  rw [fragmentSpans, positions_eq, length_eq, gaps, ← Text.length_eq_of_same same]
  congr 1
  rw [fragmentSpans, ← gaps_shift, Nat.zero_add, Text.length_eq_of_same same]

/-- The fragments of a clause are the text in front of its first joining word, unless it is blank,
and the fragments of the rest. -/
theorem fragments_append {front written rest : Text} (settled : Settled front)
    (whole : keywordPositions andKeyword front = [])
    (same : sameIgnoringCase written andKeyword = true) (starts : StartsBlank rest) :
    fragments (front ++ (written ++ rest)) =
      [Text.trim front].filter (!·.isEmpty) ++ fragments rest := by
  have first_eq : (⟨0, front.length⟩ : Span).of (front ++ (written ++ rest)) = front := by
    simp [Span.of]
  have later_eq (span : Span) :
      (span.shift (front.length + written.length)).of (front ++ (written ++ rest)) =
        span.of rest := by
    rw [← List.append_assoc, ← List.length_append, Span.of_shift]
  rw [fragments, fragmentSpans_append settled whole same starts, List.map_cons, first_eq,
    List.map_map, ← List.singleton_append, List.filter_append, fragments]
  congr 2
  exact List.map_congr_left fun span _ => congrArg Text.trim (later_eq span)

theorem fragments_of_whole {clause : Text} (whole : keywordPositions andKeyword clause = []) :
    fragments clause = [Text.trim clause].filter (!·.isEmpty) := by
  simp [fragments, fragmentSpans, whole, gaps, Span.of]

/-- Every clause is built up from its end: it holds no joining word, or it is a text without one, a
joining word, and a clause again. -/
@[elab_as_elim]
theorem clause_induction {motive : Text → Prop}
    (whole : ∀ clause, keywordPositions andKeyword clause = [] → motive clause)
    (parted : ∀ front written rest, Settled front → keywordPositions andKeyword front = [] →
      sameIgnoringCase written andKeyword = true → StartsBlank rest → motive rest →
      motive (front ++ (written ++ rest)))
    (clause : Text) : motive clause := by
  induction length : clause.length using Nat.strong_induction_on generalizing clause with
  | _ bound induction =>
      subst length
      cases positions : keywordPositions andKeyword clause with
      | nil => exact whole clause positions
      | cons first later =>
          obtain ⟨front, written, rest, rfl, -, settled, absent, same, starts⟩ :=
            exists_of_keywordPositions_eq_cons isWord_andKeyword positions
          have shorter : rest.length < (front ++ (written ++ rest)).length := by
            have := List.length_pos_iff.mpr (isWord_andKeyword.of_same same).ne_nil
            simp only [List.length_append]
            omega
          exact parted front written rest settled absent same starts
            (induction rest.length shorter rest rfl)

theorem fragments_blank_append_blank {before after : Text} (before_blank : Blank before)
    (after_blank : Blank after) (clause : Text) :
    fragments (before ++ clause ++ after) = fragments clause := by
  induction clause using clause_induction generalizing before with
  | whole clause absent =>
      have whole : keywordPositions andKeyword (before ++ clause ++ after) = [] := by
        rw [keywordPositions_append_blank isWord_andKeyword _ after_blank,
          keywordPositions_blank_append isWord_andKeyword before_blank, absent, List.map_nil]
      rw [fragments_of_whole whole, fragments_of_whole absent,
        Text.trim_blank_append_blank before_blank after_blank]
  | parted front written rest settled absent same starts induction =>
      have whole_front : keywordPositions andKeyword (before ++ front) = [] := by
        rw [keywordPositions_blank_append isWord_andKeyword before_blank, absent, List.map_nil]
      have rest_eq : fragments (rest ++ after) = fragments rest := induction Text.Blank.nil
      have text_eq : before ++ (front ++ (written ++ rest)) ++ after =
          (before ++ front) ++ (written ++ (rest ++ after)) := by
        simp only [List.append_assoc]
      have trim_eq : Text.trim (before ++ front) = Text.trim front := by
        simpa using Text.trim_blank_append_blank before_blank Text.Blank.nil front
      rw [text_eq, fragments_append ((settled_of_blank before_blank).append settled) whole_front
        same (starts.append (.of_blank after_blank)), fragments_append settled absent same starts,
        trim_eq, rest_eq]

@[simp]
theorem fragments_trim (clause : Text) : fragments (Text.trim clause) = fragments clause := by
  obtain ⟨before, after, before_blank, after_blank, clause_eq⟩ := Text.exists_blanks_trim clause
  conv_rhs => rw [clause_eq]
  rw [fragments_blank_append_blank before_blank after_blank]

/-! ## What fragments hold -/

theorem mem_fragments_of_whole {clause fragment : Text}
    (whole : keywordPositions andKeyword clause = []) (member : fragment ∈ fragments clause) :
    fragment = Text.trim clause := by
  rw [fragments_of_whole whole] at member
  exact List.mem_singleton.mp (List.mem_of_mem_filter member)

theorem mem_fragments_append {front written rest fragment : Text} (settled : Settled front)
    (whole : keywordPositions andKeyword front = [])
    (same : sameIgnoringCase written andKeyword = true) (starts : StartsBlank rest)
    (member : fragment ∈ fragments (front ++ (written ++ rest))) :
    fragment = Text.trim front ∨ fragment ∈ fragments rest := by
  rw [fragments_append settled whole same starts, List.mem_append] at member
  exact member.imp_left fun inFront => List.mem_singleton.mp (List.mem_of_mem_filter inFront)

theorem keywordPositions_of_mem_fragments {clause : Text} :
    ∀ fragment ∈ fragments clause, keywordPositions andKeyword fragment = [] := by
  induction clause using clause_induction with
  | whole clause absent =>
      intro fragment member
      rw [mem_fragments_of_whole absent member]
      exact keywordPositions_trim isWord_andKeyword absent
  | parted front written rest settled absent same starts induction =>
      intro fragment member
      rcases mem_fragments_append settled absent same starts member with rfl | inRest
      · exact keywordPositions_trim isWord_andKeyword absent
      · exact induction fragment inRest

theorem absent_of_mem_fragments {word clause : Text} (isWord : IsWord word)
    (absent : keywordPositions word clause = []) :
    ∀ fragment ∈ fragments clause, keywordPositions word fragment = [] := by
  induction clause using clause_induction with
  | whole clause whole =>
      intro fragment member
      rw [mem_fragments_of_whole whole member]
      exact keywordPositions_trim isWord absent
  | parted front written rest settled whole same starts induction =>
      rw [keywordPositions_append isWord settled, keywordPositions_word_append isWord
        (isWord_andKeyword.of_same same) starts, List.append_eq_nil_iff, List.map_eq_nil_iff,
        List.append_eq_nil_iff, List.map_eq_nil_iff] at absent
      obtain ⟨absentFront, -, absentRest⟩ := absent
      intro fragment member
      rcases mem_fragments_append settled whole same starts member with rfl | inRest
      · exact keywordPositions_trim isWord absentFront
      · exact induction absentRest fragment inRest

/-- A fragment that another one follows leaves no quote open. -/
theorem closed_of_mem_dropLast_fragments {clause : Text} :
    ∀ fragment ∈ (fragments clause).dropLast, Closed fragment := by
  induction clause using clause_induction with
  | whole clause absent =>
      intro fragment member
      by_cases blank : Text.trim clause = []
      · simp [fragments_of_whole absent, blank] at member
      · simp [fragments_of_whole absent, blank] at member
  | parted front written rest settled absent same starts induction =>
      have inFront : ∀ fragment ∈ [Text.trim front].filter (!·.isEmpty), Closed fragment := by
        intro fragment member
        rw [List.mem_singleton.mp (List.mem_of_mem_filter member)]
        exact (closed_trim front).mpr settled.closed
      intro fragment member
      rw [fragments_append settled absent same starts, List.dropLast_append] at member
      split at member
      · exact inFront fragment (List.dropLast_subset _ member)
      · rcases List.mem_append.mp member with first | later
        · exact inFront fragment first
        · exact induction fragment later

/-- A clause that leaves no quote open has no fragment that does. -/
theorem closed_of_mem_fragments {clause : Text} (closed : Closed clause) :
    ∀ fragment ∈ fragments clause, Closed fragment := by
  induction clause using clause_induction with
  | whole clause absent =>
      intro fragment member
      rw [mem_fragments_of_whole absent member]
      exact (closed_trim clause).mpr closed
  | parted front written rest settled absent same starts induction =>
      have plain : ∀ c ∈ written, isQuote c = false := fun c member =>
        ((isWord_andKeyword.of_same same).plain c member).2
      rw [Closed, Scan.run_append, settled] at closed
      have closedRest := (closed_plain_append plain rest).mp closed
      intro fragment member
      rcases mem_fragments_append settled absent same starts member with rfl | inRest
      · exact (closed_trim front).mpr settled.closed
      · exact induction closedRest fragment inRest

/-- What is written behind an open quote ends the last fragment. -/
theorem exists_mem_fragments_append {left gap back : Text} (isOpen : ¬ Closed left)
    (starts : StartsBlank (gap ++ back)) (plain : ∀ c ∈ gap ++ back, isQuote c = false)
    (trimmed : Text.Trimmed back) (ne_nil : back ≠ []) :
    ∃ front, Text.trim (front ++ back) ∈ fragments (left ++ (gap ++ back)) := by
  induction left using clause_induction with
  | whole left absent =>
      have whole : keywordPositions andKeyword (left ++ (gap ++ back)) = [] := by
        rw [keywordPositions_append_of_not_closed isWord_andKeyword isOpen (.inr starts) plain,
          absent]
      have nonempty : Text.trim (left ++ gap ++ back) ≠ [] := by
        have around := Text.trim_append_append trimmed ne_nil (left ++ gap) []
        rw [List.append_nil] at around
        rw [around]
        simp [ne_nil]
      refine ⟨left ++ gap, ?_⟩
      rw [fragments_of_whole whole, ← List.append_assoc]
      exact List.mem_filter.mpr ⟨List.mem_singleton_self _, by simpa using nonempty⟩
  | parted front written rest settled absent same rest_starts induction =>
      have word_plain : ∀ c ∈ written, isQuote c = false := fun c member =>
        ((isWord_andKeyword.of_same same).plain c member).2
      have rest_open : ¬ Closed rest := by
        rw [Closed, Scan.run_append, settled] at isOpen
        exact mt (closed_plain_append word_plain rest).mpr isOpen
      obtain ⟨last, member⟩ := induction rest_open
      refine ⟨last, ?_⟩
      rw [List.append_assoc, List.append_assoc,
        fragments_append settled absent same (rest_starts.append starts)]
      exact List.mem_append_right _ member

end ProxyHistory.Query
