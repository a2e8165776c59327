import ProxyHistory.Client.Error
import ProxyHistory.FieldRegistry
import ProxyHistory.Query.Basic

/-!
# Assembling queries

The client makes a query out of fields, conditions and a limit. Before that it refuses what could be
taken for a clause of the query.
-/

namespace ProxyHistory.Client

/-- The words that fields and conditions may not contain, in any letter case. -/
def reservedWords : List Text :=
  [Query.selectKeyword, Query.fromKeyword, Query.whereKeyword, Query.limitKeyword]

/-- Whether a text contains a word in any letter case. -/
def mentions (word text : Text) : Bool :=
  Text.includes (Text.upper text) word

/-- Refuse fields and conditions that contain one of the words. -/
def checkWords (fields : List Text) (conditions : Text) : List Text → Except ClientError Unit
  | [] => .ok ()
  | word :: words =>
      match fields.find? (mentions word) with
      | some field => .error (.invalidField field)
      | none =>
          if mentions word conditions then .error (.invalidConditions conditions)
          else checkWords fields conditions words

/-- Refuse fields that are not known, and fields and conditions that contain a reserved word. -/
def checkInput (registry : FieldRegistry) (fields : List Text) (conditions : Text) :
    Except ClientError Unit := do
  checkWords fields conditions reservedWords
  match fields.find? (!registry.contains ·) with
  | some field => throw (.unknownField field registry.names)
  | none => return ()

/-- The source that assembled queries name. -/
def source : Text := "proxy".toList

/-- The query for fields, conditions and a limit. -/
def buildQuery (fields : List Text) (conditions : Text) (limit : Nat) : Text :=
  "SELECT ".toList ++ List.intercalate [','] fields ++ " FROM ".toList ++ source ++
    " WHERE ".toList ++ Text.trim conditions ++ " LIMIT ".toList ++ Text.ofNat limit

end ProxyHistory.Client
