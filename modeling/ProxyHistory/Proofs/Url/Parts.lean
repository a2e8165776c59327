import ProxyHistory.Proofs.Text.Avoids
import ProxyHistory.Url.Basic

/-!
# The characters of the parts of a URL

What is written into a URL is encoded first, so none of the marks between its parts occurs in a part
that the mark ends. A host in brackets may hold colons; it ends with its bracket.
-/

namespace ProxyHistory

open Text (Avoids avoids_nil avoids_cons avoids_append)

namespace Percent

/-- The characters that encoding brings into a text. -/
def escapes : Text := "%0123456789ABCDEF".toList

theorem hexDigit_mem (value : Nat) (bound : value < 16) : hexDigit value ∈ escapes := by
  have all : ∀ digit : Fin 16, hexDigit digit.val ∈ escapes := by decide
  exact all ⟨value, bound⟩

theorem mem_escapes_of_mem_encodeByte {byte : UInt8} {c : Char} (member : c ∈ encodeByte byte) :
    c ∈ escapes := by
  have bound : byte.toNat < 256 := byte.toNat_lt
  simp only [encodeByte, List.mem_cons, List.not_mem_nil, or_false] at member
  rcases member with rfl | rfl | rfl
  · decide
  · exact hexDigit_mem _ (by omega)
  · exact hexDigit_mem _ (by omega)

theorem encode_avoids {marks text : Text} {needed : Char → Bool} (free : Avoids marks escapes)
    (covered : ∀ c ∈ marks, c ∈ text → needed c) : Avoids marks (encode needed text) := by
  intro c member mark
  obtain ⟨original, inText, written⟩ := List.mem_flatMap.mp member
  split at written
  · obtain ⟨byte, -, inByte⟩ := List.mem_flatMap.mp written
    exact free c (mem_escapes_of_mem_encodeByte inByte) mark
  · rename_i unneeded
    rw [List.mem_singleton] at written
    subst written
    simp [covered c mark inText] at unneeded

/-- Encoding keeps the first character or starts with a percent sign. -/
theorem head?_encode (needed : Char → Bool) (text : Text) :
    ∀ c ∈ (encode needed text).head?, c = '%' ∨ c ∈ text.head? := by
  cases text with
  | nil => simp [encode]
  | cons first rest =>
      intro c member
      rw [encode, List.flatMap_cons] at member
      split at member
      · obtain ⟨byte, bytes, encoded⟩ : ∃ byte bytes, Text.encodeChar first = byte :: bytes := by
          unfold Text.encodeChar
          simp only
          split
          · exact ⟨_, _, rfl⟩
          · split
            · exact ⟨_, _, rfl⟩
            · split
              · exact ⟨_, _, rfl⟩
              · exact ⟨_, _, rfl⟩
        rw [encoded] at member
        simp [encodeByte] at member
        exact .inl member.symm
      · exact .inr (by simpa using member)

end Percent

namespace Punycode

/-- The digits, and the hyphen that parts them from the characters before them. -/
def alphabet : Text := "-abcdefghijklmnopqrstuvwxyz0123456789".toList

theorem digit_mem (value : Nat) (bound : value < 36) : digit value ∈ alphabet := by
  have all : ∀ number : Fin 36, digit number.val ∈ alphabet := by decide
  exact all ⟨value, bound⟩

theorem threshold_le (position bias : Nat) : threshold position bias ≤ 26 := by
  unfold threshold
  split <;> omega

theorem mem_alphabet_of_mem_digits {bias fuel position number : Nat} {c : Char}
    (member : c ∈ digits bias fuel position number) : c ∈ alphabet := by
  induction fuel generalizing position number with
  | zero => simp [digits] at member
  | succ fuel induction =>
      have limit := threshold_le position bias
      rw [digits] at member
      split at member
      · rw [List.mem_singleton.mp member]
        exact digit_mem _ (by omega)
      · rcases List.mem_cons.mp member with rfl | later
        · have remainder : (number - threshold position bias) %
              (base - threshold position bias) < base - threshold position bias :=
            Nat.mod_lt _ (by simp only [base]; omega)
          apply digit_mem _
          simp only [base] at remainder ⊢
          omega
        · exact induction later

theorem mem_alphabet_of_mem_encodeCode {code ascii : Nat} {label : Text} {progress : Progress}
    {c : Char} (member : c ∈ (encodeCode code ascii label progress).2) : c ∈ alphabet := by
  induction label generalizing progress with
  | nil => simp [encodeCode] at member
  | cons first rest induction =>
      simp only [encodeCode] at member
      split at member
      · exact induction member
      · split at member
        · rcases List.mem_append.mp member with here | later
          · exact mem_alphabet_of_mem_digits here
          · exact induction later
        · exact induction member

theorem mem_alphabet_of_mem_encodeCodes {label : Text} {ascii next : Nat} {codes : List Nat}
    {progress : Progress} {c : Char}
    (member : c ∈ encodeCodes label ascii next codes progress) : c ∈ alphabet := by
  induction codes generalizing next progress with
  | nil => simp [encodeCodes] at member
  | cons code codes induction =>
      rw [encodeCodes] at member
      rcases List.mem_append.mp member with here | later
      · exact mem_alphabet_of_mem_encodeCode here
      · exact induction later

theorem encode_avoids {marks label : Text} (free : Avoids marks alphabet)
    (plain : Avoids marks label) : Avoids marks (encode label) := by
  have start : Avoids marks (label.filter (·.toNat < firstCode)) :=
    fun c member => plain c (List.mem_filter.mp member).1
  have hyphen : '-' ∉ marks := free '-' (by decide)
  simp only [encode, avoids_append]
  constructor
  · split
    · exact avoids_nil marks
    · simp [start, hyphen]
  · exact fun c member => free c (mem_alphabet_of_mem_encodeCodes member)

end Punycode

/-- The marks between the parts of a URL, and the brackets of addresses. -/
def Url.marks : Text := "#/:?@[]".toList

namespace DomainName

theorem encodeLabel_avoids {label : Text} (plain : Avoids Url.marks label) :
    Avoids Url.marks (encodeLabel label) := by
  rw [encodeLabel]
  split
  · exact plain
  · rw [avoids_append]
    exact ⟨by decide, Punycode.encode_avoids (by decide) plain⟩

theorem toAscii?_avoids {name written : Text} (found : toAscii? name = some written) :
    Avoids Url.marks written := by
  simp only [toAscii?, bind, Option.bind_eq_some_iff] at found
  obtain ⟨mapped, -, labels, -, rest⟩ := found
  split at rest
  · simp at rest
  · split at rest
    · simp at rest
    · rename_i allowed _
      rw [← Option.some.inj rest]
      apply Avoids.intercalate (by decide)
      intro part member
      obtain ⟨label, labelMember, rfl⟩ := List.mem_map.mp member
      refine encodeLabel_avoids fun c inLabel mark => allowed ?_
      have forbidden : ∀ c ∈ Url.marks, isForbidden c := by decide
      exact List.any_eq_true.mpr
        ⟨label, labelMember, List.any_eq_true.mpr ⟨c, inLabel, forbidden c mark⟩⟩

end DomainName

namespace Address

theorem mem_hexDigits_of_mem_toDigits (number : Nat) {c : Char}
    (member : c ∈ Nat.toDigits 16 number) : c ∈ "0123456789abcdef".toList := by
  have digit : ∀ value : Fin 16, Nat.digitChar value.val ∈ "0123456789abcdef".toList := by decide
  induction number using Nat.strongRecOn with
  | ind number induction =>
      rw [Nat.toDigits_eq_if (by decide)] at member
      split at member
      · rename_i small
        rw [List.mem_singleton.mp member]
        exact digit ⟨number, small⟩
      · rcases List.mem_append.mp member with front | last
        · exact induction (number / 16) (by omega) front
        · rw [List.mem_singleton.mp last]
          exact digit ⟨number % 16, by omega⟩

/-- The marks that do not occur within the brackets of an address. -/
def marksOutside : Text := "#/?@[]".toList

theorem writePieces_avoids (pieces : List Nat) : Avoids marksOutside (writePieces pieces) := by
  apply Avoids.intercalate (by decide)
  intro part member
  obtain ⟨piece, -, rfl⟩ := List.mem_map.mp member
  have free : Avoids marksOutside "0123456789abcdef".toList := by decide
  exact fun c inDigits => free c (mem_hexDigits_of_mem_toDigits piece inDigits)

theorem writeLong_avoids (pieces : List Nat) : Avoids marksOutside (writeLong pieces) := by
  simp only [writeLong]
  split
  · exact writePieces_avoids pieces
  · rw [avoids_append, avoids_append]
    exact ⟨⟨writePieces_avoids _, by decide⟩, writePieces_avoids _⟩

theorem ofNat_avoids (number : Nat) : Avoids Url.marks (Text.ofNat number) := by
  intro c member mark
  have digit := Nat.isDigit_of_mem_toDigits (by decide) (by decide) member
  have noDigit : ∀ c ∈ Url.marks, ¬ c.isDigit := by decide
  exact noDigit c mark digit

theorem writeShort_avoids (address : Nat) : Avoids Url.marks (writeShort address) := by
  apply Avoids.intercalate (by decide)
  intro part member
  obtain ⟨unit, -, rfl⟩ := List.mem_map.mp member
  exact ofNat_avoids _

end Address

namespace Host

/-- The two shapes of a host: a name without any mark, and an address in brackets. -/
inductive HasShape : Text → Prop
  | name {text : Text} : Avoids Url.marks text → HasShape text
  | address {inner : Text} : Avoids Address.marksOutside inner → HasShape ('[' :: inner ++ [']'])

theorem readBracketed_hasShape {text host : Text} (read : readBracketed text = .ok host) :
    HasShape host := by
  unfold readBracketed at read
  split at read
  · split at read
    · rw [← Except.ok.inj read]
      exact .address (Address.writeLong_avoids _)
    · simp at read
  · simp at read

theorem read_hasShape {text host : Text} (read : Host.read text = .ok host) : HasShape host := by
  unfold Host.read at read
  split at read
  · exact readBracketed_hasShape read
  · split at read
    · simp at read
    · rename_i name found
      obtain ⟨decoded, -, ascii⟩ := Option.bind_eq_some_iff.mp found
      split at read
      · simp at read
      · split at read
        · split at read
          · rw [← Except.ok.inj read]
            exact .name (Address.writeShort_avoids _)
          · simp at read
        · rw [← Except.ok.inj read]
          exact .name (DomainName.toAscii?_avoids ascii)

theorem readOpaque_hasShape {text host : Text} (read : readOpaque text = .ok host) :
    HasShape host := by
  unfold readOpaque at read
  split at read
  · exact readBracketed_hasShape read
  · split at read
    · simp at read
    · rename_i allowed
      rw [← Except.ok.inj read]
      refine .name (Percent.encode_avoids (by decide) ?_)
      intro c mark inText
      have forbidden : ∀ c ∈ Url.marks, isForbidden c := by decide
      exact absurd (List.any_eq_true.mpr ⟨c, inText, forbidden c mark⟩) allowed

theorem HasShape.avoids {host : Text} (shape : HasShape host) : Avoids "#/?@".toList host := by
  cases shape with
  | name plain => exact plain.of_subset (by decide)
  | address plain =>
      have innerPlain : Avoids "#/?@".toList _ := plain.of_subset (by decide)
      simp only [List.cons_append, avoids_cons, avoids_append]
      exact ⟨by decide, innerPlain, by decide⟩

theorem name_ne_address {name port rest : Text} (plain : Avoids Url.marks name)
    (mark : ∀ c ∈ port.head?, c = ':') : name ++ port ≠ '[' :: rest := by
  intro same
  cases name with
  | nil =>
      rw [List.nil_append] at same
      exact absurd (mark '[' (by simp [same])) (by decide)
  | cons c name =>
      rw [List.cons_append, List.cons.injEq] at same
      exact plain c (by simp) (by rw [same.1]; decide)

/-- A host can be told from the port after it. -/
theorem HasShape.eq_of_append_eq {first second firstPort secondPort : Text}
    (firstShape : HasShape first) (secondShape : HasShape second)
    (firstMark : ∀ c ∈ firstPort.head?, c = ':') (secondMark : ∀ c ∈ secondPort.head?, c = ':')
    (same : first ++ firstPort = second ++ secondPort) : first = second := by
  cases firstShape with
  | name firstPlain =>
      cases secondShape with
      | name secondPlain =>
          have noColon {name : Text} (plain : Avoids Url.marks name) : ∀ c ∈ name, ¬ c = ':' :=
            fun c member colon => plain c member (by rw [colon]; decide)
          exact (Text.eq_of_append_eq (noColon firstPlain) (noColon secondPlain) firstMark
            secondMark same).1
      | address secondPlain => exact absurd same (name_ne_address firstPlain firstMark)
  | address firstPlain =>
      cases secondShape with
      | name secondPlain => exact absurd same.symm (name_ne_address secondPlain secondMark)
      | address secondPlain =>
          have noBracket {inner : Text} (plain : Avoids Address.marksOutside inner) :
              ∀ c ∈ inner, ¬ c = ']' :=
            fun c member bracket => plain c member (by rw [bracket]; decide)
          simp only [List.cons_append, List.append_assoc, List.nil_append, List.cons.injEq,
            true_and] at same
          have sameInner := (Text.eq_of_append_eq (noBracket firstPlain) (noBracket secondPlain)
            (by simp) (by simp) same).1
          rw [sameInner]

end Host

end ProxyHistory
