import ProxyHistory.Proofs.Query.Fragments

/-!
# Joined fragments

A clause that is written as a list of fragments with joining words between them is read as that
list. A fragment that leaves a quote open can only be the last one.
-/

namespace ProxyHistory.Query

open Text (isBlank Blank Trimmed sameIgnoringCase)

/-- A keyword as it stands between other parts of a query. -/
structure Joint (word : Text) where
  /-- The blanks in front. -/
  before : Text
  /-- The keyword in some letter case. -/
  written : Text
  /-- The blanks behind. -/
  after : Text
  before_blank : Blank before
  before_ne_nil : before ≠ []
  same : sameIgnoringCase written word = true
  after_blank : Blank after
  after_ne_nil : after ≠ []

/-- A text that is one fragment. -/
structure IsFragment (text : Text) : Prop where
  ne_nil : text ≠ []
  trimmed : Trimmed text
  /-- The text does not hold the joining word. -/
  whole : keywordPositions andKeyword text = []

/-- A list of fragments in its written form. -/
def join : Text → List (Joint andKeyword × Text) → Text
  | first, [] => first
  | first, (joint, next) :: rest =>
      (first ++ joint.before) ++ (joint.written ++ (joint.after ++ join next rest))

theorem startsBlank_after {word : Text} (joint : Joint word) (rest : Text) :
    StartsBlank (joint.after ++ rest) :=
  (StartsBlank.of_blank joint.after_blank).append_of_ne_nil joint.after_ne_nil rest

theorem trim_append_before {word text : Text} (joint : Joint word) (trimmed : Trimmed text) :
    Text.trim (text ++ joint.before) = text :=
  Text.trim_around Text.Blank.nil joint.before_blank trimmed

section Join

variable {first : Text} {rest : List (Joint andKeyword × Text)}

theorem fragments_join (isFragment : ∀ text ∈ first :: rest.map (·.2), IsFragment text)
    (closed : ∀ text ∈ (first :: rest.map (·.2)).dropLast, Closed text) :
    fragments (join first rest) = first :: rest.map (·.2) := by
  induction rest generalizing first with
  | nil =>
      have firstIsFragment := isFragment first (by simp)
      rw [join, fragments_of_whole firstIsFragment.whole,
        Text.trim_of_trimmed firstIsFragment.trimmed]
      simp [firstIsFragment.ne_nil]
  | cons head rest induction =>
      obtain ⟨joint, next⟩ := head
      have firstIsFragment := isFragment first (by simp)
      have firstClosed := closed first (by simp)
      have later := induction
        (fun text member => isFragment text (List.mem_cons_of_mem first member))
        (fun text member => closed text (by
          rw [List.map_cons, List.dropLast_cons_cons]
          exact List.mem_cons_of_mem first member))
      have whole : keywordPositions andKeyword (first ++ joint.before) = [] := by
        rw [keywordPositions_append_blank isWord_andKeyword _ joint.before_blank,
          firstIsFragment.whole]
      have skipped := fragments_blank_append_blank joint.after_blank Text.Blank.nil (join next rest)
      rw [List.append_nil] at skipped
      rw [join, fragments_append (firstClosed.settled_append joint.before_blank joint.before_ne_nil)
        whole joint.same (startsBlank_after joint _), skipped, later,
        trim_append_before joint firstIsFragment.trimmed]
      simp [firstIsFragment.ne_nil]

theorem keywordPositions_join {word : Text} (isWord : IsWord word)
    (different : Text.asciiLower andKeyword ≠ Text.asciiLower word)
    (absent : ∀ text ∈ first :: rest.map (·.2), keywordPositions word text = [])
    (closed : ∀ text ∈ (first :: rest.map (·.2)).dropLast, Closed text) :
    keywordPositions word (join first rest) = [] := by
  induction rest generalizing first with
  | nil => exact absent first (by simp)
  | cons head rest induction =>
      obtain ⟨joint, next⟩ := head
      have firstClosed := closed first (by simp)
      have later := induction (fun text member => absent text (List.mem_cons_of_mem first member))
        (fun text member => closed text (by
          rw [List.map_cons, List.dropLast_cons_cons]
          exact List.mem_cons_of_mem first member))
      rw [join, keywordPositions_append isWord
          (firstClosed.settled_append joint.before_blank joint.before_ne_nil),
        keywordPositions_append_blank isWord _ joint.before_blank, absent first (by simp),
        keywordPositions_word_append isWord (isWord_andKeyword.of_same joint.same)
          (startsBlank_after joint _),
        keywordPositions_blank_append isWord joint.after_blank, later,
        not_same_of_same joint.same different]
      rfl

theorem closed_join (closed : ∀ text ∈ first :: rest.map (·.2), Closed text) :
    Closed (join first rest) := by
  induction rest generalizing first with
  | nil => exact closed first (by simp)
  | cons head rest induction =>
      obtain ⟨joint, next⟩ := head
      have later := induction fun text member => closed text (List.mem_cons_of_mem first member)
      have settled := (closed first (by simp)).settled_append joint.before_blank joint.before_ne_nil
      have plain : ∀ c ∈ joint.written ++ joint.after, isQuote c = false := by
        intro c member
        rcases List.mem_append.mp member with inWritten | inAfter
        · exact ((isWord_andKeyword.of_same joint.same).plain c inWritten).2
        · exact not_isQuote_of_isBlank (joint.after_blank c inAfter)
      have behind := (closed_plain_append plain (join next rest)).mpr later
      rw [List.append_assoc] at behind
      rw [join, Closed, Scan.run_append, settled]
      exact behind

theorem exists_join_eq (first : Text) (rest : List (Joint andKeyword × Text)) :
    ∃ front, ∃ last ∈ first :: rest.map (·.2), join first rest = front ++ last := by
  induction rest generalizing first with
  | nil => exact ⟨[], first, by simp, by simp [join]⟩
  | cons head rest induction =>
      obtain ⟨joint, next⟩ := head
      obtain ⟨front, last, member, split⟩ := induction next
      refine ⟨first ++ joint.before ++ (joint.written ++ (joint.after ++ front)), last,
        List.mem_cons_of_mem first member, ?_⟩
      rw [join, split]
      simp only [List.append_assoc]

end Join

end ProxyHistory.Query
