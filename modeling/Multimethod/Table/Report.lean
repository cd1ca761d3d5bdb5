import Multimethod.Table.Resolve
import Multimethod.Value.Json

/-!
What is said about a call: a verdict for each binding, and one line for how the call ended.
-/
namespace Multimethod

/-- Whether one binding accepts a call. -/
structure Verdict where
  index : Nat
  schema : String
  accepted : Bool
deriving DecidableEq

/-- A verdict as a line. -/
def Verdict.line (verdict : Verdict) : String :=
  "#" ++ toString verdict.index ++ " " ++ verdict.schema ++ " " ++
    (if verdict.accepted then "accepts" else "rejects")

namespace Table

variable {P H : Type} {m : Type → Type} [Monad m]

/-- The verdicts of several bindings; `index` is that of the first one. -/
def verdictsFrom (host : Host P H m) (args : List Value) (index : Nat) :
    List (Binding P H) → m (List Verdict)
  | [] => pure []
  | binding :: rest => do
    let accepted ← binding.accepts host args
    return ⟨index, binding.schema.display, accepted⟩ :: (← verdictsFrom host args (index + 1) rest)

/-- The verdict of every binding on a call. No handler runs. -/
def verdicts (host : Host P H m) (table : Table P H) (args : List Value) : m (List Verdict) :=
  verdictsFrom host args 0 table.bindings

/-- How a call ended, as a line. -/
def describe (table : Table P H) : Outcome → String
  | .matched index value =>
    let schema := (table.bindings[index]?.map (·.schema.display)).getD ""
    "matched #" ++ toString index ++ " " ++ schema ++ " -> " ++ value.toJson.compact
  | .fallback value => "fallback -> " ++ value.toJson.compact
  | .noMatch => "no match"

end Table

end Multimethod
