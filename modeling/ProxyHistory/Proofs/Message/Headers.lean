import ProxyHistory.Proofs.Message
import ProxyHistory.Proofs.Transaction

/-!
# The header for the content type

The first line of a head that tells a content type decides on the class of the message. Lines behind
it do not count, wherever the message is split.
-/

namespace ProxyHistory

/-- Blanks around the value of a header do not count. -/
theorem ContentType.classify_congr {first second : Text}
    (same : Text.trim first = Text.trim second) : classify first = classify second := by
  rw [classify, same, ← classify]

namespace Message

/-- The line is a Content-Type header with the value. What stands in front of its first colon is the
name, in any ASCII case. Name and value may have blanks around them. -/
def TellsType (value line : Text) : Prop :=
  ∃ name written, line = name ++ ':' :: written ∧ ':' ∉ name ∧
    Text.sameIgnoringCase (Text.trim name) contentTypeName ∧ Text.trim written = Text.trim value

/-- The first of the lines that is a Content-Type header is one with the value. -/
inductive FirstTells (value : Text) : List Text → Prop
  | here {line : Text} {rest : List Text} (tells : TellsType value line) :
      FirstTells value (line :: rest)
  | later {line : Text} {rest : List Text} (silent : ∀ other, ¬ TellsType other line)
      (first : FirstTells value rest) : FirstTells value (line :: rest)

/-- The first Content-Type header in the head of the message has the value. -/
def HasContentType (raw value : Text) : Prop :=
  ∃ head line body, IsParted raw head line body ∧ FirstTells value ((Text.lines head).drop 1)

theorem header?_append_cons {name : Text} (undivided : ':' ∉ name) (written : Text) :
    header? (name ++ ':' :: written) = some (name, written) := by
  refine Text.splitOnce?_append_cons (fun c member => ?_) rfl written
  rw [beq_eq_false_iff_ne]
  rintro rfl
  exact undivided member

theorem tellsType_of_header? {line name written : Text} (split : header? line = some (name, written))
    (named : Text.sameIgnoringCase (Text.trim name) contentTypeName) : TellsType written line := by
  obtain ⟨plain, mark, same, rfl⟩ := Text.of_splitOnce? split
  obtain rfl := beq_iff_eq.mp same
  exact ⟨name, written, rfl, fun member => plain ':' member rfl, named, rfl⟩

/-! ## What the head tells -/

/-- Whether the name of a header is that for content types. -/
def isTypeHeader (header : Text × Text) : Bool :=
  Text.sameIgnoringCase (Text.trim header.1) contentTypeName

/-- The class that the first Content-Type header among header lines tells. -/
def classOfHeaders (headers : List Text) : ContentType :=
  ((headers.filterMap header?).find? isTypeHeader).elim .none (ContentType.classify ·.2)

theorem contentType_eq_classOfHeaders (head : Text) :
    contentType head = classOfHeaders ((Text.lines head).drop 1) := by
  rw [contentType, classOfHeaders]
  dsimp only
  split
  · rename_i name value found
    have first : (((Text.lines head).drop 1).filterMap header?).find? isTypeHeader =
        some (name, value) := found
    rw [first]
    rfl
  · rename_i unfound
    have absent : (((Text.lines head).drop 1).filterMap header?).find? isTypeHeader = none := unfound
    rw [absent]
    rfl

theorem classOfHeaders_cons_of_tells {value line : Text} (tells : TellsType value line)
    (rest : List Text) : classOfHeaders (line :: rest) = ContentType.classify value := by
  obtain ⟨name, written, rfl, undivided, named, same⟩ := tells
  have isTypeHeader : isTypeHeader (name, written) := named
  rw [classOfHeaders, List.filterMap_cons_some (header?_append_cons undivided written),
    List.find?_cons_of_pos isTypeHeader]
  exact ContentType.classify_congr same

theorem classOfHeaders_cons_of_silent {line : Text} (silent : ∀ value, ¬ TellsType value line)
    (rest : List Text) : classOfHeaders (line :: rest) = classOfHeaders rest := by
  rw [classOfHeaders, classOfHeaders]
  cases split : header? line with
  | none => rw [List.filterMap_cons_none split]
  | some header =>
      have unnamed : ¬ isTypeHeader header := fun named =>
        silent header.2 (tellsType_of_header? split named)
      rw [List.filterMap_cons_some split, List.find?_cons_of_neg unnamed]

/-- The class of a message is that of the value of the first Content-Type header of its head. -/
theorem FirstTells.classOfHeaders_eq {value : Text} {headers : List Text}
    (first : FirstTells value headers) : classOfHeaders headers = ContentType.classify value := by
  induction first with
  | here tells => exact classOfHeaders_cons_of_tells tells _
  | later silent first induction =>
      rw [classOfHeaders_cons_of_silent silent]
      exact induction

/-! ## Lines behind the head -/

theorem TellsType.dropReturn {value line : Text} (tells : TellsType value line) :
    TellsType value (Text.dropReturn line) := by
  obtain ⟨name, written, rfl, undivided, named, same⟩ := tells
  rw [Text.dropReturn]
  split
  · rename_i last
    rcases List.eq_nil_or_concat' written with rfl | ⟨front, c, rfl⟩
    · rw [List.getLast?_concat] at last
      exact absurd last (by decide)
    · rw [← List.cons_append, ← List.append_assoc, List.getLast?_concat] at last
      obtain rfl := Option.some.inj last
      rw [← List.cons_append, ← List.append_assoc, List.dropLast_concat]
      have blank : Text.Blank ['\r'] := by decide
      have trimmed := Text.trim_blank_append_blank Text.Blank.nil blank front
      exact ⟨name, front, rfl, undivided, named, trimmed.symm.trans same⟩
  · exact ⟨name, written, rfl, undivided, named, same⟩

theorem FirstTells.append_lineFeed {value text : Text} (first : FirstTells value (Text.lines text))
    (rest : Text) : FirstTells value (Text.lines (text ++ '\n' :: rest)) := by
  induction text using Text.line_induction with
  | single line oneLine =>
      rw [Text.lines_append_cons oneLine]
      by_cases empty : line = []
      · rw [empty] at first
        cases first
      · rw [Text.lines_of_oneLine oneLine empty] at first
        cases first with
        | here tells => exact .here tells.dropReturn
        | later silent first => cases first
  | more line others oneLine induction =>
      rw [Text.lines_append_cons oneLine] at first
      rw [List.append_assoc, List.cons_append, Text.lines_append_cons oneLine]
      cases first with
      | here tells => exact .here tells
      | later silent first => exact .later silent (induction first)

/-- Lines behind a head do not change what the first of its header lines that is a Content-Type
header tells. -/
theorem firstTells_headers_append {value head : Text}
    (first : FirstTells value ((Text.lines head).drop 1)) (rest : Text) :
    FirstTells value ((Text.lines (head ++ '\n' :: rest)).drop 1) := by
  by_cases several : '\n' ∈ head
  · obtain ⟨line, others, rfl, oneLine⟩ := List.eq_append_cons_of_mem several
    rw [Text.lines_append_cons oneLine, List.drop_one, List.tail_cons] at first
    rw [List.append_assoc, List.cons_append, Text.lines_append_cons oneLine, List.drop_one,
      List.tail_cons]
    exact first.append_lineFeed rest
  · by_cases empty : head = []
    · rw [empty] at first
      cases first
    · rw [Text.lines_of_oneLine several empty] at first
      cases first

/-- The class that is recorded of a message is that of the value of the first Content-Type header in
its head. -/
theorem HasContentType.contentType_eq {raw value : Text} (has : HasContentType raw value) :
    contentType (split raw).1 = ContentType.classify value := by
  obtain ⟨head, line, body, isParted, first⟩ := has
  by_cases passedOver : IsPassedOver line body
  · obtain ⟨between, rest, -, -, split⟩ := isParted.split_of_isPassedOver passedOver
    rw [split, passedOver.1, contentType_eq_classOfHeaders]
    exact (firstTells_headers_append first ('\n' :: between)).classOfHeaders_eq
  · rw [isParted.split_eq passedOver, contentType_eq_classOfHeaders]
    exact first.classOfHeaders_eq

end Message

theorem Transaction.requestContentType_eq {url request value : Text} {response? : Option Text}
    {transaction : Transaction} (recorded : ofMessages url request response? = .ok transaction)
    (has : Message.HasContentType request value) :
    transaction.requestContentType = ContentType.classify value := by
  obtain ⟨parsed, method, read?, -, -, -, rfl⟩ := ofMessages_eq_ok_iff.mp recorded
  exact has.contentType_eq

theorem Transaction.exists_response_contentType_eq {url request response value : Text}
    {transaction : Transaction}
    (recorded : ofMessages url request (some response) = .ok transaction)
    (has : Message.HasContentType response value) :
    ∃ read, transaction.response? = some read ∧
      read.contentType = ContentType.classify value := by
  obtain ⟨read, readRaw, same⟩ := exists_of_map_eq_ok (ofMessages_response recorded)
  obtain ⟨statusCode, -, rfl⟩ := Response.ofMessage_eq_ok_iff.mp readRaw
  exact ⟨_, same.symm, has.contentType_eq⟩

end ProxyHistory
