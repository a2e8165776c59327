import ProxyHistory.Condition.Basic
import ProxyHistory.Query.Error
import ProxyHistory.Query.Keyword
import ProxyHistory.Text.Case

/-!
# Reading conditions

A fragment is tried as a condition on a length first and as a standard condition then. Each grammar
splits the fragment from left to right into a field, an operator and a remainder. An operator that
the grammar does not have is an error; a fragment that fits neither grammar is no condition.
-/

namespace ProxyHistory.Condition

open Query (isQuote)

/-- A fragment split into the three parts of a condition, as they were written. -/
structure Parts where
  /-- The name of the field. -/
  field : Text
  /-- The operator. -/
  operator : Text
  /-- What comes after the operator. -/
  remainder : Text
  deriving DecidableEq, Repr

/-- The characters of symbolic operators. -/
def isOperatorChar (c : Char) : Bool :=
  c == '=' || c == '!' || c == '<' || c == '>' || c == '~'

/-- The characters that start a name. -/
def startsName (c : Char) : Bool :=
  c.isAlpha || c == '_'

/-- The characters that continue a name. -/
def continuesName (c : Char) : Bool :=
  Text.isWordChar c || c == '-'

/-- A name in front of a text, as long as it goes, and what follows it. -/
def takeName? : Text → Option (Text × Text)
  | [] => none
  | c :: rest =>
      if startsName c then
        some (c :: rest.takeWhile continuesName, rest.dropWhile continuesName)
      else
        none

/-- A field in front of a text, which is a name or two names with a dot between them, and what
follows it. -/
def takeField? (text : Text) : Option (Text × Text) :=
  match takeName? text with
  | none => none
  | some (name, after) =>
      match after with
      | '.' :: rest =>
          match takeName? rest with
          | some (member, after) => some (name ++ '.' :: member, after)
          | none => some (name, '.' :: rest)
      | _ => some (name, after)

/-- The characters in front that satisfy a test, at least one, and what follows them. -/
def takeRun? (test : Char → Bool) (text : Text) : Option (Text × Text) :=
  match text.takeWhile test with
  | [] => none
  | run => some (run, text.dropWhile test)

/-- Whether a text is set off from an operator in front of it, by a blank or by a quote, and holds
no line feed after that. -/
def isSetOff : Text → Bool
  | [] => false
  | c :: rest => (Text.isBlank c || isQuote c) && !rest.contains '\n'

/-- A run of operator characters, with nothing or a text set off from it after it. -/
def symbolParts? (field after : Text) : Option Parts :=
  match takeRun? isOperatorChar (Text.trimStart after) with
  | some (operator, remainder) =>
      if remainder.isEmpty || isSetOff remainder then some ⟨field, operator, remainder⟩ else none
  | none => none

/-- The operators that a value may follow directly, longer ones before their beginnings. -/
def gluedOperators : List Text :=
  ["!=".toList, ">=".toList, "<=".toList, "=".toList, ">".toList, "<".toList]

/-- One of the glued operators, with a text without line feeds after it. -/
def gluedParts? (field after : Text) : Option Parts :=
  let text := Text.trimStart after
  match gluedOperators.find? (·.isPrefixOf text) with
  | some operator =>
      let remainder := text.drop operator.length
      if remainder.contains '\n' then none else some ⟨field, operator, remainder⟩
  | none => none

/-- An operator of letters, with blanks before it and a text set off from it after it. -/
def wordParts? (field after : Text) : Option Parts :=
  if after.head?.any Text.isBlank then
    match takeRun? Char.isAlpha (Text.trimStart after) with
    | some (operator, remainder) =>
        if isSetOff remainder then some ⟨field, operator, remainder⟩ else none
    | none => none
  else
    none

/-- The parts of a standard condition. -/
def standardParts? (text : Text) : Option Parts :=
  match takeField? text with
  | none => none
  | some (field, after) =>
      (symbolParts? field after).or ((gluedParts? field after).or (wordParts? field after))

/-- The letters of operators in conditions on a length: those of the alphabet in either case, and
the two other characters that agree with one of them up to case. -/
def isLengthOperatorLetter (c : Char) : Bool :=
  c.isAlpha || c == '\u017F' || c == '\u212A'

/-- The characters of a field between the parentheses of a condition on a length. -/
def isLengthFieldChar (c : Char) : Bool :=
  !(c == '(' || c == ')' || Text.isBlank c)

/-- The opening of a condition on a length, in any ASCII case. -/
def lengthOpening : Text := "len(".toList

/-- The parts of a condition on a length. -/
def lengthParts? (text : Text) : Option Parts :=
  if Text.sameIgnoringCase (text.take lengthOpening.length) lengthOpening then
    match takeRun? isLengthFieldChar (Text.trimStart (text.drop lengthOpening.length)) with
    | none => none
    | some (field, after) =>
        match Text.trimStart after with
        | ')' :: rest =>
            let text := Text.trimStart rest
            match (takeRun? isOperatorChar text).or (takeRun? isLengthOperatorLetter text) with
            | none => none
            | some (operator, after) =>
                let remainder := Text.trimStart after
                if remainder.contains '\n' then none else some ⟨field, operator, remainder⟩
        | _ => none
  else
    none

/-- The value that a text without blanks at its ends stands for: what stands between two equal
quotes, or a bare text that holds no blank and does not start with a quote. -/
def readValue? : Text → Option Text
  | [] => none
  | c :: rest =>
      if isQuote c then
        match Text.splitOnce? (· == c) rest with
        | some (value, []) => some value
        | _ => none
      else if (c :: rest).any Text.isBlank then
        none
      else
        some (c :: rest)

/-- The keys of the fields that hold a content type. -/
def contentTypeKeys : List Text :=
  ["req.content_type".toList, "resp.content_type".toList]

/-- The class that the operand of a content type condition asks for. -/
def readContentType (value : Text) : Except QueryError ContentType :=
  let lowered := Text.lower value
  if Text.includes lowered "json".toList then .ok .json
  else if Text.includes lowered "xml".toList then .ok .xml
  else .error (.unsupportedContentType value)

/-- The operand that a value is under the given key. -/
def readOperand (key value : Text) : Except QueryError Operand :=
  if key ∈ contentTypeKeys then
    (readContentType value).map .contentType
  else
    .ok (.text value)

/-- The condition on a length that the parts make up. -/
def ofLengthParts (parts : Parts) : Except QueryError (Option Condition) :=
  match LengthComparison.ofSymbol? parts.operator with
  | none => .error (.unsupportedOperator parts.operator .length)
  | some comparison =>
      let literal := Text.trim parts.remainder
      if !literal.isEmpty && literal.all Text.isDecimalDigit then
        .ok (some (.length (Text.lower parts.field) comparison literal))
      else
        .ok none

/-- The standard condition that the parts make up. -/
def ofStandardParts (parts : Parts) : Except QueryError (Option Condition) :=
  match Comparison.ofSymbol? (Text.lower parts.operator) with
  | none => .error (.unsupportedOperator parts.operator .standard)
  | some comparison =>
      match readValue? (Text.trim parts.remainder) with
      | none => .ok none
      | some value =>
          let key := Text.lower parts.field
          (readOperand key value).map fun operand => some (.standard key comparison operand)

/-- Read a condition; a fragment that fits neither grammar gives none. -/
def parse (fragment : Text) : Except QueryError (Option Condition) :=
  let text := Text.trim fragment
  match lengthParts? text with
  | some parts => ofLengthParts parts
  | none =>
      match standardParts? text with
      | some parts => ofStandardParts parts
      | none => .ok none

end ProxyHistory.Condition
