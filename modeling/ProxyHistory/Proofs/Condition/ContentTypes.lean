import ProxyHistory.Condition.Evaluation
import ProxyHistory.Proofs.Condition.Written
import ProxyHistory.Proofs.Message.Headers
import ProxyHistory.Proofs.Text.Lowering

/-!
# Conditions on content types

The operand of a condition on a content type is the class of its value, in the same classes into
which the headers of messages fall. So the condition says what comparing the classes of a value and
of a header says.
-/

namespace ProxyHistory

/-! ## Classes told from the lower case -/

namespace ContentType

theorem classify_eq_json_iff (value : Text) :
    classify value = .json ↔ Text.includes (Text.lower value) "json".toList := by
  have native : ∀ c ∈ "json".toList, Text.isNative c := by decide
  rw [Text.includes_lower native (by decide), classify]
  generalize Text.asciiLower (Text.trim value) = lowered
  cases lowered with
  | nil => decide
  | cons c lowered =>
      dsimp only [List.isEmpty_cons]
      repeat' split
      all_goals simp_all

theorem classify_eq_xml_iff (value : Text) :
    classify value = .xml ↔ ¬ Text.includes (Text.lower value) "json".toList ∧
      Text.includes (Text.lower value) "xml".toList := by
  have jsonNative : ∀ c ∈ "json".toList, Text.isNative c := by decide
  have xmlNative : ∀ c ∈ "xml".toList, Text.isNative c := by decide
  rw [Text.includes_lower jsonNative (by decide), Text.includes_lower xmlNative (by decide),
    classify]
  generalize Text.asciiLower (Text.trim value) = lowered
  cases lowered with
  | nil => decide
  | cons c lowered =>
      dsimp only [List.isEmpty_cons]
      repeat' split
      all_goals simp_all

end ContentType

namespace Condition

open ContentType (classify)

/-- What the value of a condition asks for is its class among those of headers, if that is one that
a condition can ask for. -/
theorem readContentType_eq (value : Text) :
    readContentType value =
      if classify value = .json ∨ classify value = .xml then .ok (classify value)
      else .error (.unsupportedContentType value) := by
  rw [readContentType]
  split
  · rename_i json
    have isJson := (ContentType.classify_eq_json_iff value).mpr json
    rw [isJson, if_pos (.inl rfl)]
  · rename_i notJson
    have isNotJson := mt (ContentType.classify_eq_json_iff value).mp notJson
    split
    · rename_i xml
      have isXml := (ContentType.classify_eq_xml_iff value).mpr ⟨notJson, xml⟩
      rw [isXml, if_pos (.inr rfl)]
    · rename_i notXml
      have isNotXml := mt (ContentType.classify_eq_xml_iff value).mp fun both => notXml both.2
      rw [if_neg (not_or.mpr ⟨isNotJson, isNotXml⟩)]

theorem isField_of_mem_contentTypeKeys {key : Text} (member : key ∈ contentTypeKeys) :
    IsField key := by
  rcases List.mem_pair.mp member with rfl | rfl
  · exact .member ⟨'r', "eq".toList, rfl, by decide, by decide⟩
      ⟨'c', "ontent_type".toList, rfl, by decide, by decide⟩
  · exact .member ⟨'r', "esp".toList, rfl, by decide, by decide⟩
      ⟨'c', "ontent_type".toList, rfl, by decide, by decide⟩

theorem lower_of_mem_contentTypeKeys {key : Text} (member : key ∈ contentTypeKeys) :
    Text.lower key = key := by
  have all : ∀ key ∈ contentTypeKeys, Text.lower key = key := by decide
  exact all key member

/-- A quoted value under one of the keys for content types is read as the condition on its class, if
that is one that a condition can ask for. -/
theorem parse_contentType {key : Text} (isKey : key ∈ contentTypeKeys) (comparison : Comparison)
    {quote : Char} (isQuote : Query.isQuote quote) {value : Text} (unclosed : quote ∉ value)
    (oneLine : '\n' ∉ value) :
    parse (writeStandard key comparison.symbol quote value) =
      if classify value = .json ∨ classify value = .xml then
        .ok (some (.standard key comparison (.contentType (classify value))))
      else
        .error (.unsupportedContentType value) := by
  rw [parse_quoted (isField_of_mem_contentTypeKeys isKey) comparison isQuote unclosed oneLine,
    lower_of_mem_contentTypeKeys isKey, readOperand, if_pos isKey, readContentType_eq]
  split <;> rfl

/-! ## Evaluation -/

/-- The key of the class of a request. -/
def requestKey : Text := "req.content_type".toList

/-- The key of the class of a response. -/
def responseKey : Text := "resp.content_type".toList

/-- The class that a transaction has under one of the keys for content types. -/
def classUnder (key : Text) (transaction : Transaction) : Option ContentType :=
  if key = requestKey then some transaction.requestContentType
  else transaction.response?.map (·.contentType)

/-- The transaction was recorded from messages of which the one that the key is about has the header
value in its first Content-Type header. -/
inductive Carries (header : Text) (transaction : Transaction) : Text → Prop
  | request {url request : Text} {response? : Option Text}
      (recorded : Transaction.ofMessages url request response? = .ok transaction)
      (has : Message.HasContentType request header) : Carries header transaction requestKey
  | response {url request response : Text}
      (recorded : Transaction.ofMessages url request (some response) = .ok transaction)
      (has : Message.HasContentType response header) : Carries header transaction responseKey

theorem Carries.classUnder_eq {header key : Text} {transaction : Transaction}
    (carries : Carries header transaction key) :
    classUnder key transaction = some (classify header) := by
  cases carries with
  | request recorded has =>
      rw [classUnder, if_pos rfl, Transaction.requestContentType_eq recorded has]
  | response recorded has =>
      obtain ⟨read, responded, same⟩ := Transaction.exists_response_contentType_eq recorded has
      rw [classUnder, if_neg (by decide), responded, Option.map_some, same]

theorem extract?_contentType {key : Text} (isKey : key ∈ contentTypeKeys)
    (transaction : Transaction) :
    FieldRegistry.builtin.extract? key transaction =
      some ((classUnder key transaction).elim .absent .contentType) := by
  rcases List.mem_pair.mp isKey with rfl | rfl
  · rfl
  · have found : FieldRegistry.builtin.extract? "resp.content_type".toList transaction =
        some (FieldRegistry.ofResponse (.contentType ·.contentType) transaction) := by rfl
    rw [found, FieldRegistry.ofResponse, classUnder, if_neg (by decide)]
    cases transaction.response? <;> rfl

/-- A condition on a content type holds of a transaction that has a class there, and for equality
the classes are compared. -/
theorem accepts_eq_iff {key : Text} (isKey : key ∈ contentTypeKeys) (expected : ContentType)
    (transaction : Transaction) :
    (Condition.standard key .eq (.contentType expected)).accepts .builtin transaction ↔
      classUnder key transaction = some expected := by
  rw [accepts, Condition.key, extract?_contentType isKey]
  cases classUnder key transaction with
  | none => simp [acceptsValue, Value.render?]
  | some actual => simp [acceptsValue, Value.render?, holdsStandard]

theorem accepts_ne_iff {key : Text} (isKey : key ∈ contentTypeKeys) (expected : ContentType)
    (transaction : Transaction) :
    (Condition.standard key .ne (.contentType expected)).accepts .builtin transaction ↔
      ∃ actual, classUnder key transaction = some actual ∧ actual ≠ expected := by
  rw [accepts, Condition.key, extract?_contentType isKey]
  cases classUnder key transaction with
  | none => simp [acceptsValue, Value.render?]
  | some actual => simp [acceptsValue, Value.render?, holdsStandard]

/-- Conditions that compare a content type with a quoted value agree with the classes of header
values. -/
structure AgreesWithClass (key value : Text) : Prop where
  /-- The value can be asked for exactly if its class is one of two. -/
  read_iff (comparison : Comparison) :
    (∃ condition,
      parse (writeStandard key comparison.symbol '\'' value) = .ok (some condition)) ↔
        classify value = .json ∨ classify value = .xml
  /-- Any other value is refused. -/
  refused (comparison : Comparison) (unasked : ¬ (classify value = .json ∨ classify value = .xml)) :
    parse (writeStandard key comparison.symbol '\'' value) = .error (.unsupportedContentType value)
  /-- Equality holds of the header values of the same class. -/
  eq_iff {condition : Condition}
    (read : parse (writeStandard key Comparison.eq.symbol '\'' value) = .ok (some condition))
    {header : Text} {transaction : Transaction} (carries : Carries header transaction key) :
    condition.accepts .builtin transaction ↔ classify header = classify value
  /-- Inequality holds of the header values of any other class. -/
  ne_iff {condition : Condition}
    (read : parse (writeStandard key Comparison.ne.symbol '\'' value) = .ok (some condition))
    {header : Text} {transaction : Transaction} (carries : Carries header transaction key) :
    condition.accepts .builtin transaction ↔ classify header ≠ classify value
  /-- Neither holds of a response that there is not. -/
  unanswered {comparison : Comparison} (equality : comparison = .eq ∨ comparison = .ne)
    (isResponse : key = responseKey) {condition : Condition}
    (read : parse (writeStandard key comparison.symbol '\'' value) = .ok (some condition))
    {transaction : Transaction} (absent : transaction.response? = none) :
    ¬ condition.accepts .builtin transaction

theorem eq_of_parse_contentType {key : Text} (isKey : key ∈ contentTypeKeys)
    {comparison : Comparison} {value : Text} (unclosed : '\'' ∉ value) (oneLine : '\n' ∉ value)
    {condition : Condition}
    (read : parse (writeStandard key comparison.symbol '\'' value) = .ok (some condition)) :
    condition = .standard key comparison (.contentType (classify value)) := by
  rw [parse_contentType isKey comparison (by decide) unclosed oneLine] at read
  split at read
  · exact (Option.some.inj (Except.ok.inj read)).symm
  · cases read

/-- Conditions on content types agree with the classes of headers, whatever the value between the
quotes and the value of the header. -/
theorem agreesWithClass {key : Text} (isKey : key ∈ contentTypeKeys) {value : Text}
    (unclosed : '\'' ∉ value) (oneLine : '\n' ∉ value) : AgreesWithClass key value where
  read_iff comparison := by
    rw [parse_contentType isKey comparison (by decide) unclosed oneLine]
    split
    · rename_i asked
      exact iff_of_true ⟨_, rfl⟩ asked
    · rename_i unasked
      exact iff_of_false (by simp) unasked
  refused comparison unasked := by
    rw [parse_contentType isKey comparison (by decide) unclosed oneLine, if_neg unasked]
  eq_iff {condition} read {header transaction} carries := by
    rw [eq_of_parse_contentType isKey unclosed oneLine read, accepts_eq_iff isKey,
      carries.classUnder_eq, Option.some.injEq]
  ne_iff {condition} read {header transaction} carries := by
    rw [eq_of_parse_contentType isKey unclosed oneLine read, accepts_ne_iff isKey,
      carries.classUnder_eq]
    simp
  unanswered {comparison} equality isResponse {condition} read {transaction} absent := by
    have noClass : classUnder key transaction = none := by
      rw [classUnder, isResponse, if_neg (by decide), absent, Option.map_none]
    rw [eq_of_parse_contentType isKey unclosed oneLine read]
    rcases equality with rfl | rfl
    · rw [accepts_eq_iff isKey, noClass]
      exact nofun
    · rw [accepts_ne_iff isKey, noClass]
      rintro ⟨actual, found, -⟩
      cases found

/-- The value of a response that is said to be XML is not in the class of a value that names both. -/
theorem agreesWithClass_both :
    ∃ condition transaction,
      parse "resp.content_type != 'XML or jSON '".toList = .ok (some condition) ∧
        Transaction.ofMessages "http://[::1]/p".toList "GET /p\r\n\r\n".toList
            (some "HTTP/1.1 200 OK\r\nserver\r\ncontent-TYPE : text/xml\r\n\r\n".toList) =
          .ok transaction ∧
        condition.accepts .builtin transaction := by
  have isKey : responseKey ∈ contentTypeKeys := by decide
  have asked : classify "XML or jSON ".toList = .json := by decide
  have told : classify " text/xml".toList = .xml := by decide
  have agrees : AgreesWithClass responseKey "XML or jSON ".toList :=
    agreesWithClass isKey (by decide) (by decide)
  have written : writeStandard responseKey Comparison.ne.symbol '\'' "XML or jSON ".toList =
      "resp.content_type != 'XML or jSON '".toList := by
    decide
  obtain ⟨condition, read⟩ := (agrees.read_iff .ne).mpr (.inl asked)
  let response := "HTTP/1.1 200 OK\r\nserver\r\ncontent-TYPE : text/xml\r\n\r\n".toList
  have isParted : Message.IsParted response
      "HTTP/1.1 200 OK\r\nserver\r\ncontent-TYPE : text/xml".toList Message.returnedLine [] :=
    .of_cutAt? (by decide) (by rfl) (by decide)
  have silent : ∀ other, ¬ Message.TellsType other "server".toList := by
    rintro other ⟨name, value, same, -⟩
    have colon : ':' ∈ "server".toList := same ▸ List.mem_append_right name List.mem_cons_self
    exact absurd colon (by decide)
  have tells : Message.TellsType " text/xml".toList "content-TYPE : text/xml".toList :=
    ⟨"content-TYPE ".toList, " text/xml".toList, by decide, by decide, by decide, rfl⟩
  have has : Message.HasContentType response " text/xml".toList :=
    ⟨_, _, _, isParted, .later silent (.here tells)⟩
  obtain ⟨transaction, recorded⟩ : ∃ transaction, Transaction.ofMessages "http://[::1]/p".toList
      "GET /p\r\n\r\n".toList (some response) = .ok transaction := ⟨_, by rfl⟩
  refine ⟨condition, transaction, written ▸ read, recorded, ?_⟩
  rw [agrees.ne_iff read (.response recorded has), told, asked]
  decide

end Condition

end ProxyHistory
