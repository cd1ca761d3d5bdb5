import Multimethod.Arguments
import Multimethod.Definition
import Multimethod.Table.Report

/-!
What the table of a definition answers to a call, where both are given as text. The definition is
read and its table built before the arguments are looked at.
-/
namespace Multimethod.Definition

/-- The table that a text defines. -/
def load (text : String) : Except Error LabelTable := do
  (← (parse text).mapError .json).build.table

/-- How the table that a text defines resolves a call, as a line. -/
def answer (definition arguments : String) : Except Error String := do
  let table ← load definition
  let args ← Arguments.parse arguments
  return table.describe ((table.resolve host args).run []).1

/-- The verdicts of the table that a text defines on a call. -/
def verdicts (definition arguments : String) : Except Error (List Verdict) := do
  let table ← load definition
  let args ← Arguments.parse arguments
  return ((table.verdicts host args).run []).1

end Multimethod.Definition
