import Multimethod.Error
import Multimethod.Json.Reader
import Multimethod.Value.Json

/-!
The arguments of a call as text.
-/
namespace Multimethod.Arguments

/-- The arguments that a document holds: an array holds them all, any other document is the only
one. -/
def ofJson : Json → List Value
  | .array items => items.map Value.ofJson
  | other => [Value.ofJson other]

/-- The arguments that a text holds. -/
def parse (text : String) : Except Error (List Value) := do
  return ofJson (← (Json.parse text).mapError .json)

end Multimethod.Arguments
