import ProxyHistory.Proofs.Steps
import ProxyHistory.Proofs.Text.Letters
import ProxyHistory.Proofs.Text.Search
import ProxyHistory.Proofs.Url.Parts

/-!
# The front of a URL

The front of a written URL, before its query and its fragment, tells its scheme, its host and its
path. Each part ends at a mark that cannot occur in it; that what is read keeps this is shown along
the reading, one lemma for each kind of URL.
-/

namespace ProxyHistory

open Text (Avoids avoids_nil avoids_cons avoids_append)

namespace Path

theorem mem_of_mem_leave {before : List Text} {segment : Text} (member : segment ∈ leave before) :
    segment ∈ before := by
  unfold leave at member
  split at member
  · simp at member
  · split at member
    · exact member
    · exact List.mem_cons_of_mem _ member

/-- The segments that are left are segments of the path that stand for no directory, or empty. -/
theorem forall_mem_resolve {holds : Text → Prop} {before segments : List Text} (empty : holds [])
    (done : ∀ segment ∈ before, holds segment)
    (kept : ∀ segment ∈ segments, ¬ isCurrent segment → holds segment) :
    ∀ segment ∈ resolve before segments, holds segment := by
  have left {before : List Text} (done : ∀ segment ∈ before, holds segment) :
      ∀ segment ∈ leave before, holds segment :=
    fun segment member => done segment (mem_of_mem_leave member)
  fun_induction resolve before segments with
  | case1 before => simpa using done
  | case2 before last all =>
      have allHold : ∀ segment ∈ all, holds segment := by
        simp only [all]
        split
        · simpa [empty] using left done
        · split
          · simpa [empty] using done
          · rename_i notCurrent
            simpa [kept last (by simp) notCurrent] using done
      simpa using allHold
  | case3 before segment next rest before' induction =>
      refine induction ?_ fun other member => kept other (by simp [member])
      simp only [before']
      split
      · exact left done
      · split
        · exact done
        · rename_i notCurrent
          simpa [kept segment (by simp) notCurrent] using done

/-- The marks after a path. -/
def marksAfter : Text := "#?".toList

theorem render_avoids {segments : List Text}
    (plain : ∀ segment ∈ segments, Avoids marksAfter segment) :
    Avoids marksAfter (render segments) := by
  rw [render, avoids_cons]
  exact ⟨by decide, Avoids.intercalate (by decide) plain⟩

theorem encoded_avoids (text : Text) : Avoids marksAfter (Percent.encode Percent.inPath text) := by
  have covered : ∀ c ∈ marksAfter, Percent.inPath c := by decide
  exact Percent.encode_avoids (by decide) fun c mark _ => covered c mark

theorem read_avoids (isSlash : Char → Bool) (text : Text) :
    Avoids marksAfter (read isSlash text) := by
  refine render_avoids (forall_mem_resolve (avoids_nil _) (by simp) ?_)
  intro segment member _
  obtain ⟨piece, -, rfl⟩ := List.mem_map.mp member
  exact encoded_avoids piece

theorem read_undotted {isSlash : Char → Bool} (slash : isSlash '/') (text : Text) :
    ¬ "/./".toList <+: read isSlash text := by
  rintro ⟨rest, same⟩
  have plain : ∀ segment ∈ resolve [] ((text.splitOnP isSlash).map (Percent.encode Percent.inPath)),
      '/' ∉ segment ∧ ¬ isCurrent segment := by
    refine forall_mem_resolve (by decide) (by simp) ?_
    intro segment member notCurrent
    obtain ⟨piece, pieceMember, rfl⟩ := List.mem_map.mp member
    refine ⟨fun inSegment => ?_, notCurrent⟩
    have avoids : Avoids ['/'] (Percent.encode Percent.inPath piece) := by
      refine Percent.encode_avoids (by decide) fun c mark inPiece => ?_
      rw [List.mem_singleton.mp mark] at inPiece
      exact absurd slash (Text.of_mem_splitOnP pieceMember inPiece).2
    exact avoids '/' inSegment (by simp)
  have inner : ['.', '/'] ++ rest =
      List.intercalate ['/'] (resolve [] ((text.splitOnP isSlash).map
        (Percent.encode Percent.inPath))) := by
    simpa [read, render] using same
  generalize resolve [] _ = segments at plain inner
  cases segments with
  | nil => simp at inner
  | cons first others =>
      obtain ⟨noSlash, notCurrent⟩ := plain first (by simp)
      have dotted : ∃ more, first ++ more = '.' :: '/' :: rest ∧ ∀ c ∈ more.head?, c = '/' := by
        cases others with
        | nil => exact ⟨[], by simpa using inner.symm, by simp⟩
        | cons second others =>
            refine ⟨'/' :: List.intercalate ['/'] (second :: others), ?_, by simp⟩
            simpa using inner.symm
      obtain ⟨more, written, mark⟩ := dotted
      have noMark : ∀ c ∈ first, ¬ c = '/' := fun c member slash => noSlash (slash ▸ member)
      have dotOnly : ∀ c ∈ ['.'], ¬ c = '/' := by decide
      have asWritten : first ++ more = ['.'] ++ '/' :: rest := written
      have same := (Text.eq_of_append_eq noMark dotOnly mark (by simp) asWritten).1
      exact notCurrent (by rw [same]; decide)

theorem readFile_avoids (isSlash : Char → Bool) (text : Text) :
    Avoids marksAfter (readFile isSlash text).1 := by
  have written : ∀ segments : List Text, (∀ segment ∈ segments, Avoids marksAfter segment) →
      Avoids marksAfter ('/' :: (render segments).dropWhile (· == '/')) := by
    intro segments plain
    rw [avoids_cons]
    have whole := render_avoids plain
    exact ⟨by decide, fun c member => whole c ((List.dropWhile_sublist _).subset member)⟩
  have plain : ∀ segment ∈ (text.splitOnP isSlash).map (Percent.encode Percent.inPath),
      Avoids marksAfter segment := by
    intro segment member
    obtain ⟨piece, -, rfl⟩ := List.mem_map.mp member
    exact encoded_avoids piece
  simp only [readFile]
  generalize (text.splitOnP isSlash).map (Percent.encode Percent.inPath) = segments at plain
  apply written
  split
  · rename_i letter mark rest
    split
    · refine forall_mem_resolve (avoids_nil _) (by simp) fun segment member _ => ?_
      rcases List.mem_cons.mp member with rfl | later
      · have letterPlain := plain [letter, mark] (by simp)
        rw [avoids_cons] at letterPlain
        simpa [letterPlain.1] using (by decide : ':' ∉ marksAfter)
      · exact plain segment (by simp [later])
    · exact forall_mem_resolve (avoids_nil _) (by simp) fun segment member _ => plain segment member
  · rename_i letter name rest _
    have firstPlain := plain (letter :: ':' :: name) (by simp)
    rw [avoids_cons, avoids_cons] at firstPlain
    split
    · refine forall_mem_resolve (avoids_nil _) ?_ fun segment member _ =>
        plain segment (by simp [member])
      intro segment member
      simp only [List.mem_cons, List.not_mem_nil, or_false] at member
      rcases member with rfl | rfl
      · exact firstPlain.2.2
      · simp [firstPlain.1, firstPlain.2.1]
    · exact forall_mem_resolve (avoids_nil _) (by simp) fun segment member _ => plain segment member
  · exact forall_mem_resolve (avoids_nil _) (by simp) fun segment member _ => plain segment member

end Path

/-- The credentials of an authority end with their sign, and its host has the shape of a host. -/
structure Authority.WellFormed (authority : Authority) : Prop where
  /-- Credentials, if there are any, end with the sign. -/
  credentials : ∀ c ∈ authority.credentials.reverse.head?, c = '@'
  /-- No part of the URL ends in credentials. -/
  plain : Avoids "#/?".toList authority.credentials
  /-- The host is a name or an address. -/
  host : Host.HasShape authority.host

namespace Url

/-- The parts of a URL between its scheme and its query can be told apart. -/
structure Hierarchy.WellFormed (hierarchy : Hierarchy) : Prop where
  /-- The authority is well formed. -/
  authority : ∀ authority ∈ hierarchy.1, authority.WellFormed
  /-- A path after an authority starts with a slash. -/
  rooted : hierarchy.1.isSome → ∀ c ∈ hierarchy.2.head?, c = '/'
  /-- The path ends with the marks after it. -/
  path : Avoids Path.marksAfter hierarchy.2
  /-- A path without an authority does not start with a segment for the current directory. -/
  undotted : hierarchy.1 = none → ¬ "/./".toList <+: hierarchy.2

/-- The front of a URL can be taken apart again. -/
structure WellFormed (url : Url) : Prop where
  /-- The scheme ends with the colon after it. -/
  scheme : Avoids "#:?".toList url.scheme
  /-- What follows the scheme is well formed. -/
  hierarchy : Hierarchy.WellFormed (url.authority?, url.path)

theorem writeCredentials_wellFormed (text : Text) :
    (∀ c ∈ (writeCredentials text).reverse.head?, c = '@') ∧
      Avoids "#/?".toList (writeCredentials text) := by
  have encoded (part : Text) : Avoids "#/?".toList (Percent.encode Percent.inCredentials part) := by
    have covered : ∀ c ∈ "#/?".toList, Percent.inCredentials c := by decide
    exact Percent.encode_avoids (by decide) fun c mark _ => covered c mark
  have signed (written : Text) (plain : Avoids "#/?".toList written) :
      (∀ c ∈ (if written.isEmpty then [] else written ++ ['@']).reverse.head?, c = '@') ∧
        Avoids "#/?".toList (if written.isEmpty then [] else written ++ ['@']) := by
    split
    · simp
    · rw [avoids_append]
      exact ⟨by simp, plain, by decide⟩
  apply signed _
  split
  · rename_i user password _
    rw [avoids_append]
    refine ⟨encoded user, ?_⟩
    split
    · exact avoids_nil _
    · rw [avoids_cons]
      exact ⟨by decide, encoded password⟩
  · exact encoded text

theorem readCredentials_wellFormed {followed : Bool} {text credentials rest : Text}
    (read : readCredentials followed text = .ok (credentials, rest)) :
    (∀ c ∈ credentials.reverse.head?, c = '@') ∧ Avoids "#/?".toList credentials := by
  unfold readCredentials at read
  split at read
  · rw [Except.ok.injEq, Prod.mk.injEq] at read
    simp [← read.1]
  · split at read
    · simp at read
    · rw [Except.ok.injEq, Prod.mk.injEq] at read
      rw [← read.1]
      exact writeCredentials_wellFormed _

theorem readHost_hasShape {kind : SchemeKind} {text host : Text}
    (read : readHost kind text = .ok host) : Host.HasShape host := by
  unfold readHost at read
  split at read
  · exact Host.readOpaque_hasShape read
  · split at read
    · simp at read
    · exact Host.read_hasShape read

theorem readAuthority_wellFormed {kind : SchemeKind} {followed : Bool} {text rest : Text}
    {authority : Authority} (read : readAuthority kind followed text = .ok (authority, rest)) :
    authority.WellFormed := by
  obtain ⟨⟨credentials, afterCredentials⟩, credentialsRead, read⟩ := exists_of_bind_eq_ok read
  obtain ⟨sign, plain⟩ := readCredentials_wellFormed credentialsRead
  obtain ⟨host, hostRead, read⟩ := exists_of_bind_eq_ok read
  have shape := readHost_hasShape hostRead
  have built {port? : Option Nat} {after : Text}
      (same : (⟨credentials, host, port?⟩, after) = (authority, rest)) : authority.WellFormed := by
    rw [Prod.mk.injEq] at same
    rw [← same.1]
    exact ⟨sign, plain, shape⟩
  dsimp only at read
  split at read
  · simp [bind, Except.bind, throw, throwThe, MonadExceptOf.throw] at read
  · split at read
    all_goals
      obtain ⟨⟨port?, after⟩, -, read⟩ := exists_of_bind_eq_ok read
      dsimp only at read
      split at read
      · simp [bind, Except.bind, throw, throwThe, MonadExceptOf.throw] at read
      · exact built (Except.ok.inj read)

theorem readNetwork_wellFormed {kind : SchemeKind} {followed : Bool} {text : Text}
    {hierarchy : Hierarchy} (read : readNetwork kind followed text = .ok hierarchy) :
    Hierarchy.WellFormed hierarchy := by
  obtain ⟨⟨authority, rest⟩, authorityRead, read⟩ := exists_of_bind_eq_ok read
  rw [← Except.ok.inj read]
  exact {
    authority := by simpa using readAuthority_wellFormed authorityRead
    rooted := by simp [Path.read, Path.render]
    path := Path.read_avoids _ _
    undotted := by simp }

theorem readFile_wellFormed {text : Text} {hierarchy : Hierarchy}
    (read : readFile text = .ok hierarchy) : Hierarchy.WellFormed hierarchy := by
  have built {host path : Text} (shape : Host.HasShape host)
      (slash : ∀ c ∈ path.head?, c = '/') (plain : Avoids Path.marksAfter path) :
      Hierarchy.WellFormed (some (hostAlone host), path) :=
    { authority := by
        intro authority member
        rw [← Option.some.inj member]
        exact ⟨by simp [hostAlone], by simp [hostAlone], shape⟩
      rooted := fun _ => slash
      path := plain
      undotted := by simp }
  have withoutHost (rest : Text) : Hierarchy.WellFormed
      (some (hostAlone []), (Path.readFile SchemeKind.file.isSlash rest).1) :=
    built (.name (avoids_nil _)) (by simp [Path.readFile]) (Path.readFile_avoids _ _)
  unfold readFile at read
  dsimp only at read
  split at read
  · rw [← Except.ok.inj read]
    exact withoutHost _
  · rw [← Except.ok.inj read]
    exact withoutHost _
  · split at read
    · split at read
      · rw [← Except.ok.inj read]
        exact withoutHost _
      · obtain ⟨host, hostRead, read⟩ := exists_of_bind_eq_ok read
        split at read
        · rw [← Except.ok.inj read]
          exact withoutHost _
        · rw [← Except.ok.inj read]
          refine built ?_ (by simp [Path.readFile]) (Path.readFile_avoids _ _)
          split
          · exact .name (avoids_nil _)
          · exact Host.read_hasShape hostRead
    · rw [← Except.ok.inj read]
      exact withoutHost _

theorem readOther_wellFormed {followed : Bool} {text : Text} {hierarchy : Hierarchy}
    (textPlain : Avoids Path.marksAfter text) (read : readOther followed text = .ok hierarchy) :
    Hierarchy.WellFormed hierarchy := by
  unfold readOther at read
  dsimp only at read
  split at read
  · obtain ⟨⟨authority, rest⟩, authorityRead, read⟩ := exists_of_bind_eq_ok read
    rw [← Except.ok.inj read]
    refine {
      authority := by simpa using readAuthority_wellFormed authorityRead
      rooted := fun _ => ?_
      path := ?_
      undotted := by simp }
    · split
      · simp
      · simp [Path.read, Path.render]
    · split
      · exact avoids_nil _
      · exact Path.read_avoids _ _
  · rename_i rest _
    rw [← Except.ok.inj read]
    exact {
      authority := by simp
      rooted := by simp
      path := Path.read_avoids _ _
      undotted := fun _ => Path.read_undotted (by decide) rest }
  · rename_i _ noSlash
    rw [← Except.ok.inj read]
    refine {
      authority := by simp
      rooted := by simp
      path := Percent.encode_avoids (by decide) fun c mark inText =>
        absurd mark (textPlain c inText)
      undotted := fun _ => ?_ }
    rintro ⟨rest, dotted⟩
    have written : Percent.encode Percent.inControls text = '/' :: '.' :: '/' :: rest := dotted.symm
    have first := Percent.head?_encode Percent.inControls text '/' (by simp [written])
    rcases first with percent | slash
    · exact absurd percent (by decide)
    · cases text with
      | nil => simp at slash
      | cons c text => exact noSlash text (by simp at slash; rw [slash])

theorem splitOnce?_eq_none {separates : Char → Bool} {text : Text}
    (split : Text.splitOnce? separates text = none) : ∀ c ∈ text, ¬ separates c := by
  induction text with
  | nil => simp
  | cons first rest induction =>
      rw [Text.splitOnce?] at split
      split at split
      · simp at split
      · rename_i notSeparating
        simp only [List.mem_cons, forall_eq_or_imp]
        exact ⟨notSeparating, induction (Option.map_eq_none_iff.mp split)⟩

theorem splitTail_avoids {mark : Char} {marks text : Text} (plain : Avoids marks text) :
    Avoids (mark :: marks) (splitTail mark text).1 := by
  unfold splitTail
  split
  · rename_i before after split
    obtain ⟨noMark, _, -, rfl⟩ := Text.of_splitOnce? split
    intro c member
    have different : c ≠ mark := by simpa using noMark c member
    simp [different, plain c (List.mem_append_left _ member)]
  · rename_i split
    intro c member
    have different : c ≠ mark := by simpa using splitOnce?_eq_none split c member
    simp [different, plain c member]

theorem readScheme?_avoids {text scheme rest : Text}
    (read : readScheme? text = some (scheme, rest)) : Avoids "#:?".toList scheme := by
  unfold readScheme? at read
  split at read
  · split at read
    · simp only [Option.some.injEq, Prod.mk.injEq] at read
      rw [← read.1]
      intro c member
      obtain ⟨original, inText, rfl⟩ := List.mem_map.mp member
      have schemeChar : isSchemeChar original :=
        List.all_eq_true.mp List.all_takeWhile original inText
      intro mark
      have unchanged : original.toLower = original := by
        have noLetter : ∀ c ∈ "#:?".toList, c.toNat < 65 := by decide
        have small := noLetter _ mark
        have code := Text.toNat_toLower original
        split at code
        · omega
        · exact Char.toNat_inj.mp code
      have noSchemeChar : ∀ c ∈ "#:?".toList, ¬ isSchemeChar c := by decide
      exact noSchemeChar original (unchanged ▸ mark) schemeChar
    · simp at read
  · simp at read

theorem parse_wellFormed {input : Text} {url : Url} (parsed : parse input = .ok url) :
    url.WellFormed := by
  unfold parse at parsed
  split at parsed
  · rename_i scheme afterScheme schemeRead
    have textPlain : Avoids Path.marksAfter
        (splitTail '?' (splitTail '#' afterScheme).1).1 := by
      have nothing : Avoids [] afterScheme := by simp [Avoids]
      exact (splitTail_avoids (splitTail_avoids nothing)).of_subset (by decide)
    have built {hierarchy : Hierarchy} (wellFormed : Hierarchy.WellFormed hierarchy)
        {query? fragment? : Option Text}
        (same : Url.mk scheme hierarchy.1 hierarchy.2 query? fragment? = url) : url.WellFormed := by
      rw [← same]
      exact ⟨readScheme?_avoids schemeRead, wellFormed⟩
    dsimp only at parsed
    split at parsed
    · obtain ⟨hierarchy, read, parsed⟩ := exists_of_bind_eq_ok parsed
      exact built (readNetwork_wellFormed read) (Except.ok.inj parsed)
    · obtain ⟨hierarchy, read, parsed⟩ := exists_of_bind_eq_ok parsed
      exact built (readFile_wellFormed read) (Except.ok.inj parsed)
    · obtain ⟨hierarchy, read, parsed⟩ := exists_of_bind_eq_ok parsed
      exact built (readOther_wellFormed textPlain read) (Except.ok.inj parsed)
  · simp [throw, throwThe, MonadExceptOf.throw] at parsed

/-- A path without an authority is not taken for one. -/
theorem writePath_ne_slashes (path rest : Text) : writePath path ≠ '/' :: '/' :: rest := by
  unfold writePath
  split
  · simp
  · rename_i noSlashes
    intro same
    rw [List.nil_append] at same
    simp [same] at noSlashes

theorem writePath_injective {first second : Text} (firstUndotted : ¬ "/./".toList <+: first)
    (secondUndotted : ¬ "/./".toList <+: second) (same : writePath first = writePath second) :
    first = second := by
  have dotted {path : Text} (slashes : "//".toList.isPrefixOf path) :
      "/./".toList <+: "/.".toList ++ path := by
    obtain ⟨rest, rfl⟩ := List.isPrefixOf_iff_prefix.mp slashes
    exact ⟨'/' :: rest, by simp⟩
  unfold writePath at same
  split at same
  · rename_i firstSlashes
    split at same
    · exact List.append_cancel_left same
    · rw [List.nil_append] at same
      exact absurd (same ▸ dotted firstSlashes) secondUndotted
  · split at same
    · rename_i secondSlashes
      rw [List.nil_append] at same
      exact absurd (same ▸ dotted secondSlashes) firstUndotted
    · exact same

theorem writePort_mark (port? : Option Nat) : ∀ c ∈ (writePort port?).head?, c = ':' := by
  cases port? <;> simp [writePort]

theorem writePort_avoids (port? : Option Nat) : Avoids "#/?@".toList (writePort port?) := by
  cases port? with
  | none => exact avoids_nil _
  | some port =>
      have digits : Avoids "#/?@".toList (Text.ofNat port) :=
        (Address.ofNat_avoids port).of_subset (by decide)
      rw [writePort, avoids_cons]
      exact ⟨by decide, digits⟩

/-- The authority and the path after it can be told apart, and so can the host within it. -/
theorem eq_of_renderAuthority_eq {first second : Authority} {firstPath secondPath : Text}
    (firstWellFormed : first.WellFormed) (secondWellFormed : second.WellFormed)
    (firstRooted : ∀ c ∈ firstPath.head?, c = '/') (secondRooted : ∀ c ∈ secondPath.head?, c = '/')
    (same : renderAuthority first ++ firstPath = renderAuthority second ++ secondPath) :
    first.host = second.host ∧ firstPath = secondPath := by
  have written (authority : Authority) : renderAuthority authority =
      '/' :: '/' :: (authority.credentials ++ (authority.host ++ writePort authority.port?)) := by
    simp [renderAuthority]
  have noSlash {authority : Authority} (wellFormed : authority.WellFormed) :
      ∀ c ∈ authority.credentials ++ (authority.host ++ writePort authority.port?), ¬ c = '/' := by
    intro c member slash
    simp only [List.mem_append] at member
    rcases member with inCredentials | inHost | inPort
    · exact wellFormed.plain c inCredentials (by rw [slash]; decide)
    · exact wellFormed.host.avoids c inHost (by rw [slash]; decide)
    · exact writePort_avoids _ c inPort (by rw [slash]; decide)
  have noSign {authority : Authority} (wellFormed : authority.WellFormed) :
      ∀ c ∈ (authority.host ++ writePort authority.port?).reverse, ¬ c = '@' := by
    intro c member sign
    simp only [List.mem_reverse, List.mem_append] at member
    rcases member with inHost | inPort
    · exact wellFormed.host.avoids c inHost (by rw [sign]; decide)
    · exact writePort_avoids _ c inPort (by rw [sign]; decide)
  rw [written, written, List.cons_append, List.cons_append, List.cons_append, List.cons_append,
    List.cons.injEq, List.cons.injEq] at same
  obtain ⟨sameAuthority, samePath⟩ := Text.eq_of_append_eq (noSlash firstWellFormed)
    (noSlash secondWellFormed) firstRooted secondRooted same.2.2
  have backwards := congrArg List.reverse sameAuthority
  rw [List.reverse_append, @List.reverse_append _ second.credentials] at backwards
  have sameHostAndPort := (Text.eq_of_append_eq (noSign firstWellFormed) (noSign secondWellFormed)
    firstWellFormed.credentials secondWellFormed.credentials backwards).1
  exact ⟨firstWellFormed.host.eq_of_append_eq secondWellFormed.host (writePort_mark _)
    (writePort_mark _) (List.reverse_inj.mp sameHostAndPort), samePath⟩

/-- The front of a URL tells its host and its path. -/
theorem WellFormed.eq_of_renderFront_eq {first second : Url} (firstWellFormed : first.WellFormed)
    (secondWellFormed : second.WellFormed) (same : first.renderFront = second.renderFront) :
    first.host = second.host ∧ first.path = second.path := by
  have noColon {url : Url} (wellFormed : url.WellFormed) : ∀ c ∈ url.scheme, ¬ c = ':' :=
    fun c member colon => wellFormed.scheme c member (by rw [colon]; decide)
  unfold renderFront at same
  have sameRest := (Text.eq_of_append_eq (noColon firstWellFormed) (noColon secondWellFormed)
    (by simp) (by simp) same).2
  have firstHierarchy := firstWellFormed.hierarchy
  have secondHierarchy := secondWellFormed.hierarchy
  unfold host
  cases firstAuthority : first.authority? with
  | some authority =>
      cases secondAuthority : second.authority? with
      | some other =>
          simp only [firstAuthority, secondAuthority, List.cons.injEq, true_and] at sameRest
          exact eq_of_renderAuthority_eq (firstHierarchy.authority authority firstAuthority)
            (secondHierarchy.authority other secondAuthority)
            (firstHierarchy.rooted (by simp [firstAuthority]))
            (secondHierarchy.rooted (by simp [secondAuthority])) sameRest
      | none =>
          simp only [firstAuthority, secondAuthority, List.cons.injEq, true_and] at sameRest
          exact absurd sameRest.symm (writePath_ne_slashes _ _)
  | none =>
      cases secondAuthority : second.authority? with
      | some other =>
          simp only [firstAuthority, secondAuthority, List.cons.injEq, true_and] at sameRest
          exact absurd sameRest (writePath_ne_slashes _ _)
      | none =>
          simp only [firstAuthority, secondAuthority, List.cons.injEq, true_and] at sameRest
          exact ⟨rfl, writePath_injective (firstHierarchy.undotted firstAuthority)
            (secondHierarchy.undotted secondAuthority) sameRest⟩

theorem WellFormed.front_avoids {url : Url} (wellFormed : url.WellFormed) :
    Avoids Path.marksAfter url.renderFront := by
  have schemePlain : Avoids Path.marksAfter url.scheme := wellFormed.scheme.of_subset (by decide)
  have pathPlain := wellFormed.hierarchy.path
  unfold renderFront
  rw [avoids_append, avoids_cons]
  refine ⟨schemePlain, by decide, ?_⟩
  split
  · rename_i authority found
    have authorityWellFormed := wellFormed.hierarchy.authority authority found
    have credentialsPlain : Avoids Path.marksAfter authority.credentials :=
      authorityWellFormed.plain.of_subset (by decide)
    have hostPlain : Avoids Path.marksAfter authority.host :=
      authorityWellFormed.host.avoids.of_subset (by decide)
    have portPlain : Avoids Path.marksAfter (writePort authority.port?) :=
      (writePort_avoids authority.port?).of_subset (by decide)
    simp only [renderAuthority, avoids_append]
    exact ⟨⟨⟨⟨by decide, credentialsPlain⟩, hostPlain⟩, portPlain⟩, pathPlain⟩
  · rw [writePath, avoids_append]
    refine ⟨?_, pathPlain⟩
    split <;> decide

end Url

end ProxyHistory
