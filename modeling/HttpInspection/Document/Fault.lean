import HttpInspection.Failure

/-!
# Faults of documents

Why a document in a data format does not give the value that is expected of it.
-/

set_option autoImplicit false

namespace HttpInspection

inductive DocumentFault where
  /-- The text is not of its format, or a value is of the wrong kind. -/
  | malformed
  | missingField (name : String)
  | unknownVariant (name : String) (expected : List String)
  | word (fault : TokenFault)
  deriving Repr, DecidableEq

namespace DocumentFault

def backquoted (name : String) : String :=
  "`" ++ name ++ "`"

/-- The names that are expected, as they stand in a sentence. -/
def alternatives (names : List String) : String :=
  match names with
  | [a, b] => backquoted a ++ " or " ++ backquoted b
  | names => "one of " ++ ", ".intercalate (names.map backquoted)

def message : DocumentFault → String
  | malformed => "malformed document"
  | missingField name => "missing field " ++ backquoted name
  | unknownVariant name expected =>
    "unknown variant " ++ backquoted name ++ ", expected " ++ alternatives expected
  | word fault => fault.message

end DocumentFault

end HttpInspection
