import ProxyHistory.StatusCode

/-!
# Client errors

Why a command of the client fails.
-/

namespace ProxyHistory

/-- Why a command fails. -/
inductive ClientError
  /-- A field that could be taken for a clause of the query. -/
  | invalidField (field : Text)
  /-- Conditions that could be taken for a clause of the query. -/
  | invalidConditions (conditions : Text)
  /-- A field that is none of the known ones. -/
  | unknownField (field : Text) (known : List Text)
  /-- The hub refuses the request, with a message and a code. -/
  | refused (message : Text) (code : Nat)
  /-- The hub tells success in a way that is not understood. -/
  | unexpectedReply (body : Text)
  /-- The hub tells failure in a way that is not understood. -/
  | failedStatus (status : Nat) (body : Text)
  /-- A file that does not exist. -/
  | missingFile (file : Text)
  /-- A file that cannot be read. -/
  | unreadableFile (file reason : Text)
  /-- A file that holds no JSON. -/
  | notJson (file reason : Text)
  /-- A file that holds no array. -/
  | notArray (file : Text)
  deriving DecidableEq, Repr

/-- The error in words. -/
def ClientError.message : ClientError → Text
  | .invalidField field => "Invalid field: ".toList ++ field
  | .invalidConditions conditions => "Invalid condition: ".toList ++ conditions
  | .unknownField field known =>
      "Invalid field: ".toList ++ field ++ " (known fields: ".toList ++
        List.intercalate ", ".toList known ++ ")".toList
  | .refused message code => message ++ " (".toList ++ Text.ofNat code ++ ")".toList
  | .unexpectedReply body => "unexpected response: ".toList ++ body
  | .failedStatus status body => StatusCode.render status ++ ": ".toList ++ body
  | .missingFile file =>
      "cannot read ".toList ++ file ++ ": No such file or directory (os error 2)".toList
  | .unreadableFile file reason =>
      "cannot read ".toList ++ file ++ ": ".toList ++ reason
  | .notJson file reason => file ++ " is not valid JSON: ".toList ++ reason
  | .notArray file => file ++ " must contain a JSON array".toList

end ProxyHistory
