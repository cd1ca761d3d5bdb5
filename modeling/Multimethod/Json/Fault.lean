import Multimethod.Json.Printer
import Multimethod.Text.Quoted

/-!
Why a text is not the document that was asked for.
-/
namespace Multimethod.Json

/-- What a reader asked for. -/
inductive Expected where
  | string
  | boolean
  | sequence
  | record (name : String)
deriving DecidableEq

/-- How a document differs in shape from what was asked for. -/
inductive Mismatch where
  /-- Another kind of document; of an array or an object only the kind counts. -/
  | wrongKind (found : Json) (expected : Expected)
  | duplicateField (name : String)
  | missingField (name : String)
  /-- An array with too few items for a record. -/
  | tooShort (length : Nat) (record : String) (size : Nat)

/-- The faults of a text: it ends too early, it breaks the grammar, or it has the wrong shape. The
fault that comes first in the text is the one reported. -/
inductive Fault where
  | truncated
  | malformed
  | mismatch (mismatch : Mismatch)

/-- What was asked for, in words. -/
def Expected.words : Expected → String
  | .string => "a string"
  | .boolean => "a boolean"
  | .sequence => "a sequence"
  | .record name => "struct " ++ name

/-- What was found, in words. -/
def foundWords : Json → String
  | .null => "null"
  | .bool b => "boolean `" ++ String.ofList (boolChars b) ++ "`"
  | .number (.int n) => "integer `" ++ toString n ++ "`"
  | .number (.float x) => "floating point `" ++ String.ofList (numberLayout.write x) ++ "`"
  | .string text => "string " ++ Text.quoted text
  | .array _ => "sequence"
  | .object _ => "map"

/-- The difference in words. -/
def Mismatch.message : Mismatch → String
  | .wrongKind found expected =>
    "invalid type: " ++ foundWords found ++ ", expected " ++ expected.words
  | .duplicateField name => "duplicate field `" ++ name ++ "`"
  | .missingField name => "missing field `" ++ name ++ "`"
  | .tooShort length record size =>
    "invalid length " ++ toString length ++ ", expected struct " ++ record ++ " with " ++
      toString size ++ " elements"

end Multimethod.Json
