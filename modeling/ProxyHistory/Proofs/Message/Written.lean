import ProxyHistory.Proofs.Message.Headers
import ProxyHistory.Proofs.Query.Literals
import ProxyHistory.Proofs.Text.Avoids

/-!
# Written messages

A message is written as a start line, headers and a body, with carriage returns and line feeds
between its lines and a blank line in front of the body. Whatever the body holds, the message is
split in front of it, and each part is read back.
-/

namespace ProxyHistory

open Text (Avoids)

namespace Message

/-- What stands between two lines of a written head. A text without these two characters is a single
line. -/
def lineEnd : Text := "\r\n".toList

/-- A header. Its name and its value are parted by the first colon of its line. -/
structure Header where
  /-- The text in front of the colon. -/
  name : Text
  /-- The text behind the colon and a space. -/
  value : Text
  undivided : ':' ∉ name
  name_oneLine : Avoids lineEnd name
  value_oneLine : Avoids lineEnd value

/-- The line of a header. -/
def Header.line (header : Header) : Text :=
  header.name ++ ':' :: ' ' :: header.value

/-- Whether a header tells the content type. -/
def Header.tellsType (header : Header) : Bool :=
  Text.sameIgnoringCase (Text.trim header.name) contentTypeName

/-- The class of the value of the first header that tells the content type. -/
def classOf (headers : List Header) : ContentType :=
  match headers.find? Header.tellsType with
  | some header => ContentType.classify header.value
  | none => .none

/-- The start line of a request. -/
structure RequestLine where
  /-- The method, which is a single word. -/
  method : Text
  /-- The text behind the method and a space. -/
  rest : Text
  method_ne_nil : method ≠ []
  method_unbroken : ∀ c ∈ method, Text.isBlank c = false
  rest_oneLine : Avoids lineEnd rest

/-- The written form of a request line. -/
def RequestLine.text (line : RequestLine) : Text :=
  line.method ++ ' ' :: line.rest

/-- The start line of a response. -/
structure StatusLine where
  /-- The version, which is a single word. -/
  version : Text
  /-- The status code. -/
  code : UInt16
  /-- The text behind the status code and a space. -/
  reason : Text
  version_ne_nil : version ≠ []
  version_unbroken : ∀ c ∈ version, Text.isBlank c = false
  reason_oneLine : Avoids lineEnd reason

/-- The written form of a status line. -/
def StatusLine.text (line : StatusLine) : Text :=
  line.version ++ ' ' :: (Text.ofNat line.code.toNat ++ ' ' :: line.reason)

/-- The lines of the head of a message. -/
def headLines (startLine : Text) (headers : List Header) : List Text :=
  startLine :: headers.map Header.line

/-- A message with the given start line, headers and body. -/
def write (startLine : Text) (headers : List Header) (body : Text) : Text :=
  List.intercalate lineEnd (headLines startLine headers) ++ (returnedLine ++ body)

/-! ## Lines of a head -/

/-- A text is a line of a head: it is not empty, and it holds nothing that ends a line. -/
structure IsLine (line : Text) : Prop where
  ne_nil : line ≠ []
  oneLine : Avoids lineEnd line

theorem avoids_lineEnd_of_unbroken {text : Text} (unbroken : ∀ c ∈ text, Text.isBlank c = false) :
    Avoids lineEnd text := by
  have blank : Text.Blank lineEnd := by decide
  intro c member ending
  have := unbroken c member
  rw [blank c ending] at this
  contradiction

theorem isLine_of_word {word rest : Text} (unbroken : ∀ c ∈ word, Text.isBlank c = false)
    (oneLine : Avoids lineEnd rest) : IsLine (word ++ ' ' :: rest) where
  ne_nil := by simp
  oneLine := (Text.avoids_append ..).mpr ⟨avoids_lineEnd_of_unbroken unbroken,
    (Text.avoids_cons ..).mpr ⟨by decide, oneLine⟩⟩

theorem RequestLine.isLine (line : RequestLine) : IsLine line.text :=
  isLine_of_word line.method_unbroken line.rest_oneLine

theorem unbroken_ofNat (number : Nat) : ∀ c ∈ Text.ofNat number, Text.isBlank c = false :=
  fun c member => ((Text.isWord_ofNat number).plain c member).1

theorem StatusLine.isLine (line : StatusLine) : IsLine line.text :=
  isLine_of_word line.version_unbroken
    (isLine_of_word (unbroken_ofNat line.code.toNat) line.reason_oneLine).oneLine

theorem Header.isLine (header : Header) : IsLine header.line where
  ne_nil := by simp [line]
  oneLine := (Text.avoids_append ..).mpr ⟨header.name_oneLine, (Text.avoids_cons ..).mpr
    ⟨by decide, (Text.avoids_cons ..).mpr ⟨by decide, header.value_oneLine⟩⟩⟩

theorem isLine_of_mem_headLines {startLine : Text} (isLine : IsLine startLine)
    (headers : List Header) : ∀ line ∈ headLines startLine headers, IsLine line := by
  refine List.forall_mem_cons.mpr ⟨isLine, fun line member => ?_⟩
  obtain ⟨header, -, rfl⟩ := List.mem_map.mp member
  exact header.isLine

theorem lines_intercalate {lines : List Text} (areLines : ∀ line ∈ lines, IsLine line) :
    Text.lines (List.intercalate lineEnd lines) = lines := by
  have oneLine : ∀ line ∈ lines, '\n' ∉ line := fun line member inside =>
    (areLines line member).oneLine '\n' inside (by decide)
  refine Text.lines_intercalate (fun line member =>
    ⟨oneLine line member, (areLines line member).ne_nil⟩) fun line member rest => ?_
  have returned : '\n' ∉ line ++ ['\r'] := by
    intro inside
    rcases List.mem_append.mp inside with inLine | inEnd
    · exact oneLine line member inLine
    · exact absurd inEnd (by decide)
  have split : line ++ lineEnd ++ rest = (line ++ ['\r']) ++ '\n' :: rest := by simp [lineEnd]
  rw [split, Text.lines_append_cons returned, Text.dropReturn_concat]

/-! ## The end of a head -/

/-- No blank line starts in the front of a text that goes on with the rest. -/
def Unbroken (front rest : Text) : Prop :=
  ∀ other ∈ blankLines, ∀ before after, front ++ rest = before ++ (other ++ after) →
    front.length ≤ before.length

theorem Unbroken.append {first second rest : Text} (firstUnbroken : Unbroken first (second ++ rest))
    (secondUnbroken : Unbroken second rest) : Unbroken (first ++ second) rest := by
  intro other isBlankLine before after occurs
  rw [List.append_assoc] at occurs
  have reaches := firstUnbroken other isBlankLine before after occurs
  obtain ⟨gap, rfl⟩ : first <+: before :=
    List.prefix_of_prefix_length_le (List.prefix_append first _)
      (occurs ▸ List.prefix_append before _) reaches
  rw [List.append_assoc, List.append_cancel_left_eq] at occurs
  have later := secondUnbroken other isBlankLine gap after occurs
  simp only [List.length_append]
  omega

theorem exists_cons_of_mem_blankLines {line : Text} (isBlankLine : line ∈ blankLines) :
    ∃ c rest, line = c :: rest ∧ c ∈ lineEnd := by
  have all : ∀ line ∈ blankLines, ∀ c ∈ line.head?, c ∈ lineEnd := by decide
  obtain ⟨c, rest, rfl⟩ := List.exists_cons_of_ne_nil (ne_nil_of_mem_blankLines isBlankLine)
  exact ⟨c, rest, rfl, all _ isBlankLine c rfl⟩

theorem unbroken_of_avoids {line : Text} (oneLine : Avoids lineEnd line) (rest : Text) :
    Unbroken line rest := by
  intro other isBlankLine before after occurs
  obtain ⟨c, tail, rfl, ending⟩ := exists_cons_of_mem_blankLines isBlankLine
  by_contra short
  obtain ⟨gap, rfl⟩ : before <+: line :=
    List.prefix_of_prefix_length_le (List.prefix_append before _)
      (occurs ▸ List.prefix_append line _) (by omega)
  rw [List.append_assoc, List.append_cancel_left_eq] at occurs
  cases gap with
  | nil => simp at short
  | cons d gap =>
      obtain ⟨rfl, -⟩ := List.cons.inj occurs
      exact oneLine d (by simp) ending

/-- The end of a line starts no blank line in front of a line that is not empty. -/
theorem unbroken_lineEnd {line : Text} (isLine : IsLine line) (rest : Text) :
    Unbroken lineEnd (line ++ rest) := by
  obtain ⟨c, line, rfl⟩ := List.exists_cons_of_ne_nil isLine.ne_nil
  have notEnding := isLine.oneLine c List.mem_cons_self
  intro other isBlankLine before after occurs
  change '\r' :: '\n' :: c :: (line ++ rest) = before ++ (other ++ after) at occurs
  rcases before with - | ⟨first, - | ⟨second, before⟩⟩
  · rcases List.mem_pair.mp isBlankLine with rfl | rfl
    · change _ = '\r' :: '\n' :: '\r' :: '\n' :: after at occurs
      simp only [List.cons.injEq] at occurs
      obtain ⟨-, -, rfl, -⟩ := occurs
      exact absurd (by decide) notEnding
    · exact absurd (List.cons.inj occurs).1 (by decide)
  · rcases List.mem_pair.mp isBlankLine with rfl | rfl
    · exact absurd (List.cons.inj (List.cons.inj occurs).2).1 (by decide)
    · change _ = first :: '\n' :: '\n' :: after at occurs
      simp only [List.cons.injEq] at occurs
      obtain ⟨-, -, rfl, -⟩ := occurs
      exact absurd (by decide) notEnding
  · simp [lineEnd]

theorem unbroken_intercalate {lines : List Text} (areLines : ∀ line ∈ lines, IsLine line)
    (rest : Text) : Unbroken (List.intercalate lineEnd lines) rest := by
  induction lines with
  | nil => exact fun other isBlankLine before after occurs => Nat.zero_le _
  | cons line lines induction =>
      obtain ⟨isLine, restAreLines⟩ := List.forall_mem_cons.mp areLines
      cases lines with
      | nil =>
          rw [List.intercalate_singleton]
          exact unbroken_of_avoids isLine.oneLine rest
      | cons next lines =>
          have nextIsLine := (List.forall_mem_cons.mp restAreLines).1
          obtain ⟨more, starts⟩ : next <+: List.intercalate lineEnd (next :: lines) ++ rest := by
            cases lines with
            | nil => exact ⟨rest, by rw [List.intercalate_singleton]⟩
            | cons other lines =>
                rw [List.intercalate_cons_cons, List.append_assoc, List.append_assoc]
                exact List.prefix_append next _
          have ending : Unbroken lineEnd (List.intercalate lineEnd (next :: lines) ++ rest) :=
            starts ▸ unbroken_lineEnd nextIsLine more
          rw [List.intercalate_cons_cons]
          exact ((unbroken_of_avoids isLine.oneLine _).append ending).append
            (induction restAreLines)

/-- A written message is parted at the blank line behind its head. -/
theorem isParted_write {startLine : Text} (isLine : IsLine startLine) (headers : List Header)
    (body : Text) :
    IsParted (write startLine headers body)
      (List.intercalate lineEnd (headLines startLine headers)) returnedLine body :=
  .parted List.mem_cons_self rfl fun other isBlankLine before after occurs =>
    unbroken_intercalate (isLine_of_mem_headLines isLine headers) _ other isBlankLine before after
      occurs

theorem split_write {startLine : Text} (isLine : IsLine startLine) (headers : List Header)
    (body : Text) :
    split (write startLine headers body) =
      (List.intercalate lineEnd (headLines startLine headers), body) := by
  refine (isParted_write isLine headers body).split_eq ?_
  rintro ⟨sameLine, -⟩
  exact absurd sameLine (by decide)

/-! ## The class of a written message -/

theorem Header.tellsType_line {header : Header} (named : header.tellsType) :
    TellsType header.value header.line := by
  have behind := Text.trim_blank_append_blank Text.blank_space Text.Blank.nil header.value
  rw [List.append_nil] at behind
  exact ⟨header.name, ' ' :: header.value, rfl, header.undivided, named, behind⟩

theorem Header.not_tellsType_line {header : Header} (unnamed : ¬ header.tellsType) (value : Text) :
    ¬ TellsType value header.line := by
  rintro ⟨name, written, same, undivided, named, -⟩
  have split := header?_append_cons header.undivided (' ' :: header.value)
  rw [← line, same, header?_append_cons undivided, Option.some.injEq, Prod.mk.injEq] at split
  rw [split.1] at named
  exact unnamed named

theorem classOfHeaders_map_line (headers : List Header) :
    classOfHeaders (headers.map Header.line) = classOf headers := by
  induction headers with
  | nil => rfl
  | cons header headers induction =>
      rw [List.map_cons, classOf]
      by_cases named : header.tellsType
      · rw [classOfHeaders_cons_of_tells (Header.tellsType_line named),
          List.find?_cons_of_pos named]
      · rw [classOfHeaders_cons_of_silent (Header.not_tellsType_line named),
          List.find?_cons_of_neg named, induction, classOf]

/-! ## What is read of a written message -/

section Read

variable {startLine : Text} (isLine : IsLine startLine) (headers : List Header) (body : Text)

include isLine

theorem startLine?_write :
    startLine? (split (write startLine headers body)).1 = some startLine := by
  rw [split_write isLine, startLine?, lines_intercalate (isLine_of_mem_headLines isLine headers)]
  rfl

theorem contentType_write :
    contentType (split (write startLine headers body)).1 = classOf headers := by
  rw [split_write isLine, contentType_eq_classOfHeaders,
    lines_intercalate (isLine_of_mem_headLines isLine headers)]
  exact classOfHeaders_map_line headers

end Read

theorem StatusLine.readStatusCode?_text (line : StatusLine) :
    Response.readStatusCode? line.text = some line.code := by
  have read : Text.natural? (Nat.pow 2 16) (Text.ofNat line.code.toNat) = some line.code.toNat :=
    Text.natural?_ofNat line.code.toNat_lt
  rw [Response.readStatusCode?, text,
    Text.words_append_space_cons line.version_ne_nil line.version_unbroken,
    Text.words_append_space_cons (Text.ofNat_ne_nil line.code.toNat)
      (unbroken_ofNat line.code.toNat)]
  change (Text.natural? (Nat.pow 2 16) (Text.ofNat line.code.toNat)).map UInt16.ofNat = _
  rw [read, Option.map_some, UInt16.ofNat_toNat]

theorem ofMessage_write (line : StatusLine) (headers : List Header) (body : Text) :
    Response.ofMessage (write line.text headers body) =
      .ok ⟨line.code, classOf headers, write line.text headers body, body⟩ := by
  refine Response.ofMessage_eq_ok_iff.mpr ⟨line.code, ?_, ?_⟩
  · rw [startLine?_write line.isLine, Option.getD_some, line.readStatusCode?_text]
  · rw [contentType_write line.isLine, split_write line.isLine]

/-- The recording of a written request with a URL and a response. -/
def recorded (url : Url) (line : RequestLine) (headers : List Header) (body : Text)
    (response? : Option Response) : Transaction where
  method := line.method
  url := url.render
  host := url.host
  path := url.path
  query := url.query
  request := write line.text headers body
  requestBody := body
  requestContentType := classOf headers
  response?

/-- Written requests and responses are read back, whatever their bodies hold: the method or the
status code, the class of the first header for content types, the body and the message itself. A
request is recorded with every URL that is one without the blanks around it, and with every response
that is read. -/
theorem ofMessages_write {url : Text} {parsed : Url}
    (accepted : Url.parse (Text.trim url) = .ok parsed) (headers : List Header) (body : Text) :
    (∀ (line : RequestLine) (response? : Option Text) (read? : Option Response),
        response?.mapM Response.ofMessage = .ok read? →
          Transaction.ofMessages url (write line.text headers body) response? =
            .ok (recorded parsed line headers body read?)) ∧
      ∀ line : StatusLine, Response.ofMessage (write line.text headers body) =
        .ok ⟨line.code, classOf headers, write line.text headers body, body⟩ := by
  refine ⟨fun line response? read? read => ?_, fun line => ofMessage_write line headers body⟩
  refine Transaction.ofMessages_eq_ok_iff.mpr
    ⟨parsed, line.method, read?, accepted, ?_, read, ?_⟩
  · rw [startLine?_write line.isLine, Option.map_some, Option.bind_some, RequestLine.text,
      Text.words_append_space_cons line.method_ne_nil line.method_unbroken, List.head?_cons]
  · rw [Transaction.ofParts, contentType_write line.isLine, split_write line.isLine]
    rfl

/-- The first of two headers for content types decides, and a blank line and a header in the body do
not count. -/
theorem ofMessages_write_twoTypes :
    ∃ transaction, Transaction.ofMessages " http://[::1]/p ".toList
        "PUT /p\r\nCONTENT-type : Text/XML\r\nContent-Type: a/json\r\n\r\nx\r\n\r\nA: b".toList
        (some "HTTP/1.1 204 \r\n\r\n\n\n".toList) = .ok transaction ∧
      transaction.method = "PUT".toList ∧ transaction.requestContentType = .xml ∧
      transaction.requestBody = "x\r\n\r\nA: b".toList ∧
      transaction.response? =
        some ⟨204, .none, "HTTP/1.1 204 \r\n\r\n\n\n".toList, "\n\n".toList⟩ := by
  let parsed : Url := ⟨"http".toList, some ⟨[], "[::1]".toList, none⟩, "/p".toList, none, none⟩
  let line : RequestLine := ⟨"PUT".toList, "/p".toList, by decide, by decide, by decide⟩
  let status : StatusLine :=
    ⟨"HTTP/1.1".toList, 204, [], by decide, by decide, by decide⟩
  let headers : List Header :=
    [⟨"CONTENT-type ".toList, "Text/XML".toList, by decide, by decide, by decide⟩,
      ⟨"Content-Type".toList, "a/json".toList, by decide, by decide, by decide⟩]
  have accepted : Url.parse (Text.trim " http://[::1]/p ".toList) = .ok parsed := by rfl
  have requestText : write line.text headers "x\r\n\r\nA: b".toList =
      "PUT /p\r\nCONTENT-type : Text/XML\r\nContent-Type: a/json\r\n\r\nx\r\n\r\nA: b".toList := by
    decide
  have responseText : write status.text [] "\n\n".toList =
      "HTTP/1.1 204 \r\n\r\n\n\n".toList := by
    decide
  have responded := (ofMessages_write accepted [] "\n\n".toList).2 status
  rw [responseText] at responded
  have recorded := (ofMessages_write accepted headers "x\r\n\r\nA: b".toList).1 line
    (some "HTTP/1.1 204 \r\n\r\n\n\n".toList) _ (congrArg (some <$> ·) responded)
  rw [requestText] at recorded
  exact ⟨_, recorded, rfl, by decide, rfl, rfl⟩

/-- A text can be a URL only with the blanks around it: the host of the URL here is a blank, which is
trimmed off before the text is read. -/
theorem not_ofMessages_write_blankHost :
    (∃ parsed, Url.parse "foo://user@\u3000".toList = .ok parsed) ∧
      ∃ line : RequestLine,
        Transaction.ofMessages "foo://user@\u3000".toList (write line.text [] []) none =
          .error (.badUrl "foo://user@".toList .emptyHost) :=
  ⟨⟨⟨"foo".toList, some ⟨"user@".toList, "%E3%80%80".toList, none⟩, [], none, none⟩, by rfl⟩,
    ⟨"GET".toList, "/ HTTP/1.1".toList, by decide, by decide, by decide⟩, by rfl⟩

end Message

end ProxyHistory
