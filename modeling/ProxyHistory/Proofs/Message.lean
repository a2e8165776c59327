import Mathlib.Data.Nat.Find
import ProxyHistory.Proofs.Text.Blank
import ProxyHistory.Proofs.Text.Search
import ProxyHistory.Transaction

/-!
# The first blank line of a message

A message is parted at its first blank line. It is split there too, unless that line is one between
bare line feeds and the body holds one between carriage returns: then it is split at the latter, and
only the start line is still that of the head.
-/

namespace ProxyHistory

namespace Message

open Text (cutAt? Blank)

/-- The blank line of a message whose lines end in carriage returns and line feeds. -/
def returnedLine : Text := "\r\n\r\n".toList

/-- The blank line of a message whose lines end in bare line feeds. -/
def bareLine : Text := "\n\n".toList

/-- The two ways to write a blank line. -/
def blankLines : List Text := [returnedLine, bareLine]

/-- A message is a head, its first blank line and a body. -/
inductive IsParted (raw : Text) : (head line body : Text) → Prop
  /-- Without a blank line the whole message is the head. -/
  | whole (absent : ∀ other ∈ blankLines, ¬ other <:+: raw) : IsParted raw raw [] []
  /-- No blank line starts in front of the one that parts the message. -/
  | parted {head line body : Text} (isBlankLine : line ∈ blankLines)
      (split : raw = head ++ (line ++ body))
      (first : ∀ other ∈ blankLines, ∀ before after, raw = before ++ (other ++ after) →
        head.length ≤ before.length) : IsParted raw head line body

/-- The blank line between a head and a body is passed over for one in the body. -/
def IsPassedOver (line body : Text) : Prop :=
  line = bareLine ∧ returnedLine <:+: body

theorem ne_nil_of_mem_blankLines {line : Text} (isBlankLine : line ∈ blankLines) : line ≠ [] := by
  rintro rfl
  exact absurd isBlankLine (by decide)

theorem exists_isParted (raw : Text) : ∃ head line body, IsParted raw head line body := by
  by_cases absent : ∀ other ∈ blankLines, ¬ other <:+: raw
  · exact ⟨raw, [], [], .whole absent⟩
  · have occurs : ∃ position, ∃ line ∈ blankLines, ∃ head body : Text,
        head.length = position ∧ raw = head ++ (line ++ body) := by
      push Not at absent
      obtain ⟨line, isBlankLine, head, body, split⟩ := absent
      exact ⟨head.length, line, isBlankLine, head, body, rfl, by rw [← split, List.append_assoc]⟩
    classical
    obtain ⟨line, isBlankLine, head, body, position, split⟩ := Nat.find_spec occurs
    refine ⟨head, line, body, .parted isBlankLine split ?_⟩
    intro other otherIsBlankLine before after otherSplit
    rw [position]
    exact Nat.find_min' occurs ⟨other, otherIsBlankLine, before, after, rfl, otherSplit⟩

theorem IsParted.of_cutAt? {raw head line body : Text} (isBlankLine : line ∈ blankLines)
    (found : cutAt? line raw = some (head, body))
    (first : ∀ other ∈ blankLines, ∀ parts ∈ cutAt? other raw,
      head.length ≤ parts.1.length) : IsParted raw head line body := by
  refine .parted isBlankLine (Text.cutAt?_eq_some found) fun other otherIsBlankLine before after
    occurs => ?_
  obtain ⟨front, rest, foundOther, isPrefix⟩ := Text.exists_cutAt? other before after
  rw [← occurs] at foundOther
  exact Nat.le_trans (first other otherIsBlankLine _ foundOther) isPrefix.length_le

/-! ## Where a message is split -/

theorem split_of_returned {raw head body : Text}
    (found : cutAt? returnedLine raw = some (head, body)) : split raw = (head, body) := by
  rw [split, show "\r\n\r\n".toList = returnedLine from rfl, found]

theorem split_of_bare {raw head body : Text} (absent : ¬ returnedLine <:+: raw)
    (found : cutAt? bareLine raw = some (head, body)) : split raw = (head, body) := by
  rw [split, show "\r\n\r\n".toList = returnedLine from rfl, Text.cutAt?_eq_none_iff.mpr absent,
    show "\n\n".toList = bareLine from rfl, found, Option.getD_some]

theorem split_of_absent {raw : Text} (absent : ∀ other ∈ blankLines, ¬ other <:+: raw) :
    split raw = (raw, []) := by
  rw [split, show "\r\n\r\n".toList = returnedLine from rfl,
    Text.cutAt?_eq_none_iff.mpr (absent _ (by simp [blankLines])),
    show "\n\n".toList = bareLine from rfl,
    Text.cutAt?_eq_none_iff.mpr (absent _ (by simp [blankLines])), Option.getD_none]

/-- A blank line between carriage returns that starts behind the start of one between bare line
feeds starts behind its end. -/
theorem exists_between_of_bare {head body front rest : Text}
    (same : head ++ (bareLine ++ body) = front ++ (returnedLine ++ rest))
    (early : head.length ≤ front.length) :
    ∃ between, front = head ++ (bareLine ++ between) ∧
      body = between ++ (returnedLine ++ rest) := by
  obtain ⟨gap, rfl⟩ : head <+: front :=
    List.prefix_of_prefix_length_le (List.prefix_append head _) (same ▸ List.prefix_append front _)
      early
  rw [List.append_assoc, List.append_cancel_left_eq] at same
  change '\n' :: '\n' :: body = gap ++ '\r' :: '\n' :: '\r' :: '\n' :: rest at same
  rcases gap with - | ⟨first, - | ⟨second, between⟩⟩
  · simp at same
  · simp at same
  · simp only [List.cons_append, List.cons.injEq] at same
    obtain ⟨rfl, rfl, body_eq⟩ := same
    exact ⟨between, rfl, body_eq⟩

section Parted

variable {raw head line body : Text} (isParted : IsParted raw head line body)

include isParted

theorem IsParted.head_absent : ∀ other ∈ blankLines, ¬ other <:+: head := by
  intro other otherIsBlankLine
  cases isParted with
  | whole absent => exact absent other otherIsBlankLine
  | parted isBlankLine split first =>
      rintro ⟨before, after, rfl⟩
      have early := first other otherIsBlankLine before (after ++ (line ++ body)) (by simp [split])
      have long := List.length_pos_iff.mpr (ne_nil_of_mem_blankLines otherIsBlankLine)
      simp only [List.length_append] at early
      omega

/-- A message is split where it is parted, unless that blank line is passed over. -/
theorem IsParted.split_eq (notPassedOver : ¬ IsPassedOver line body) :
    split raw = (head, body) := by
  cases isParted with
  | whole absent => exact split_of_absent absent
  | parted isBlankLine occurs first =>
      have found := Text.cutAt?_of_first occurs (first line isBlankLine)
      rcases List.mem_cons.mp isBlankLine with rfl | isBare
      · exact split_of_returned found
      · obtain rfl := List.mem_singleton.mp isBare
        refine split_of_bare ?_ found
        rintro ⟨front, rest, returned⟩
        rw [List.append_assoc] at returned
        obtain ⟨between, -, body_eq⟩ := exists_between_of_bare (occurs.symm.trans returned.symm)
          (first returnedLine (by simp [blankLines]) front rest returned.symm)
        exact notPassedOver ⟨rfl, between, rest, by rw [body_eq, List.append_assoc]⟩

/-- A message whose first blank line is passed over is split at the first one between carriage
returns in its body. -/
theorem IsParted.split_of_isPassedOver (passedOver : IsPassedOver line body) :
    ∃ between rest, body = between ++ (returnedLine ++ rest) ∧ ¬ returnedLine <:+: between ∧
      split raw = (head ++ (line ++ between), rest) := by
  obtain ⟨rfl, before, after, inBody⟩ := passedOver
  cases isParted with
  | parted isBlankLine occurs first =>
      have later : raw = (head ++ (bareLine ++ before)) ++ (returnedLine ++ after) := by
        rw [occurs, ← inBody]
        simp
      obtain ⟨front, rest, found, -⟩ :=
        Text.exists_cutAt? returnedLine (head ++ (bareLine ++ before)) after
      rw [← later] at found
      have returned := Text.cutAt?_eq_some found
      obtain ⟨between, rfl, body_eq⟩ := exists_between_of_bare (occurs.symm.trans returned)
        (first returnedLine (by simp [blankLines]) front rest returned)
      refine ⟨between, rest, body_eq, ?_, split_of_returned found⟩
      rintro ⟨start, stop, rfl⟩
      have occursEarly : raw = (head ++ (bareLine ++ start)) ++
          (returnedLine ++ (stop ++ (returnedLine ++ rest))) := by
        rw [returned]
        simp
      have early := Text.length_le_of_cutAt? found occursEarly
      have long : 0 < returnedLine.length := by decide
      simp only [List.length_append] at early
      omega

end Parted

/-! ## Start lines -/

theorem startLine?_of_lineFeed {line : Text} (oneLine : '\n' ∉ line) (rest : Text) :
    startLine? (line ++ '\n' :: rest) = some (Text.dropReturn line) := by
  rw [startLine?, Text.lines_append_cons oneLine, List.head?_cons]

theorem startLine?_of_oneLine {line : Text} (oneLine : '\n' ∉ line) :
    (startLine? line).getD [] = line := by
  rw [startLine?, Text.lines, List.splitOn_eq_singleton oneLine]
  cases line <;> rfl

/-- A line feed behind a head takes no more than blanks off its start line. -/
theorem exists_blank_startLine (head rest : Text) : ∃ blanks, Blank blanks ∧
    (startLine? head).getD [] = (startLine? (head ++ '\n' :: rest)).getD [] ++ blanks := by
  by_cases several : '\n' ∈ head
  · obtain ⟨line, others, rfl, oneLine⟩ := List.eq_append_cons_of_mem several
    have shared : startLine? (line ++ '\n' :: others ++ '\n' :: rest) =
        startLine? (line ++ '\n' :: others) := by
      rw [List.append_assoc, List.cons_append, startLine?_of_lineFeed oneLine,
        startLine?_of_lineFeed oneLine]
    exact ⟨[], Blank.nil, by rw [shared, List.append_nil]⟩
  · rw [startLine?_of_oneLine several, startLine?_of_lineFeed several, Option.getD_some]
    exact Text.exists_blank_dropReturn head

/-! ## What is read of a message -/

/-- All that is recorded of a message is what is recorded of its head alone, but for the class,
which comes from a text of its own, and the body. -/
structure IsReadAs (raw head typed body : Text) : Prop where
  response : Response.ofMessage raw = (Response.ofMessage head).map fun response =>
    { response with contentType := contentType typed, raw := raw, body := body }
  request (url : Text) (response? : Option Text) : Transaction.ofMessages url raw response? =
    (Transaction.ofMessages url head response?).map fun transaction =>
      { transaction with
        request := raw, requestContentType := contentType typed, requestBody := body }

theorem isReadAs_of_split {raw head typed body : Text} (rawSplit : split raw = (typed, body))
    (headSplit : split head = (head, []))
    (start : ∃ blanks, Blank blanks ∧
      (startLine? head).getD [] = (startLine? typed).getD [] ++ blanks) :
    IsReadAs raw head typed body := by
  obtain ⟨blanks, blank, start⟩ := start
  have words_eq := Text.words_append_blank ((startLine? typed).getD []) blank
  have trim_eq :
      Text.trim ((startLine? head).getD []) = Text.trim ((startLine? typed).getD []) := by
    rw [start]
    exact Text.trim_blank_append_blank Blank.nil blank _
  rw [← start] at words_eq
  have method (text : Text) : ((startLine? text).map Text.words).bind (·.head?) =
      (Text.words ((startLine? text).getD [])).head? := by
    cases startLine? text <;> rfl
  constructor
  · simp only [Response.ofMessage, Response.readStatusCode?, rawSplit, headSplit, words_eq, trim_eq]
    split <;> rfl
  · intro url response?
    simp only [Transaction.ofMessages, rawSplit, headSplit, method, words_eq]
    cases Url.parse (Text.trim url) with
    | error reason => rfl
    | ok parsed =>
      cases (Text.words ((startLine? typed).getD [])).head? with
      | none => rfl
      | some method =>
        cases response?.mapM Response.ofMessage with
        | error reason => rfl
        | ok response? => rfl

/-- Every message has a first blank line or none, and nothing of the text behind it counts for more
than the body, unless the line is one between bare line feeds and the body holds one between
carriage returns. In that case the text up to the latter is lost from the body, and counts for the
class, but for nothing else. -/
theorem exists_isParted_and_isReadAs (raw : Text) :
    (∃ head line body, IsParted raw head line body) ∧
      ∀ head line body, IsParted raw head line body →
        (∀ other ∈ blankLines, ¬ other <:+: head) ∧
        (¬ IsPassedOver line body → IsReadAs raw head head body) ∧
        (IsPassedOver line body →
          ∃ between rest, body = between ++ (returnedLine ++ rest) ∧
            ¬ returnedLine <:+: between ∧ IsReadAs raw head (head ++ (line ++ between)) rest) := by
  refine ⟨exists_isParted raw, fun head line body isParted =>
    ⟨isParted.head_absent, fun notPassedOver => ?_, fun passedOver => ?_⟩⟩
  · exact isReadAs_of_split (isParted.split_eq notPassedOver) (split_of_absent isParted.head_absent)
      ⟨[], Blank.nil, (List.append_nil _).symm⟩
  · obtain ⟨between, rest, body_eq, absent, rawSplit⟩ := isParted.split_of_isPassedOver passedOver
    refine ⟨between, rest, body_eq, absent, ?_⟩
    rw [passedOver.1] at rawSplit ⊢
    exact isReadAs_of_split rawSplit (split_of_absent isParted.head_absent)
      (exists_blank_startLine head ('\n' :: between))

/-- Blank lines of either kind in the body do not matter if carriage returns end the head. -/
theorem isReadAs_nested :
    IsReadAs "HTTP/1.1 200 OK\r\n\r\na\n\nb\r\n\r\nc".toList "HTTP/1.1 200 OK".toList
      "HTTP/1.1 200 OK".toList "a\n\nb\r\n\r\nc".toList := by
  have isParted : IsParted "HTTP/1.1 200 OK\r\n\r\na\n\nb\r\n\r\nc".toList
      "HTTP/1.1 200 OK".toList returnedLine "a\n\nb\r\n\r\nc".toList :=
    .of_cutAt? (by decide) (by rfl) (by decide)
  refine ((exists_isParted_and_isReadAs _).2 _ _ _ isParted).2.1 ?_
  rintro ⟨sameLine, -⟩
  exact absurd sameLine (by decide)

/-- A body behind bare line feeds can give the message another class and be lost up to its first
blank line between carriage returns. -/
theorem ofMessage_passedOver :
    let raw := "HTTP/1.1 200 OK\n\nContent-Type: text/xml\r\n\r\nx".toList
    IsParted raw "HTTP/1.1 200 OK".toList bareLine "Content-Type: text/xml\r\n\r\nx".toList ∧
      Response.ofMessage raw = .ok ⟨200, .xml, raw, ['x']⟩ :=
  ⟨.of_cutAt? (by decide) (by rfl) (by decide), by rfl⟩

end Message

end ProxyHistory
