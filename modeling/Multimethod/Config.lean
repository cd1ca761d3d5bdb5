import Multimethod.Json.Record

/-!
The configuration of a table: its name in events, and whether it reports each binding that rejects
a call.
-/
namespace Multimethod

/-- How a table appears in events. -/
structure Config where
  name : String := "polyfunc"
  traceRejections : Bool := false
deriving DecidableEq, Inhabited

namespace Config

/-- The fields found so far. -/
structure Draft where
  name : Option String := none
  traceRejections : Option Bool := none

open Json in
/-- A configuration in a document. A field that is not there has its default. -/
def record : Json.Record Draft Config where
  name := "TableConfig"
  fields := [
    ⟨"name", (·.name.isSome), fun draft => return { draft with name := some (← Reader.stringValue) }⟩,
    ⟨"trace_rejections", (·.traceRejections.isSome), fun draft =>
      return { draft with traceRejections := some (← Reader.boolValue) }⟩]
  start := {}
  finish draft :=
    let default : Config := {}
    some ⟨draft.name.getD default.name, draft.traceRejections.getD default.traceRejections⟩

/-- The configuration that a text holds. -/
def parse (text : String) : Except Json.Fault Config :=
  (Json.Reader.record record).whole text

/-- The document of a configuration. -/
def toJson (config : Config) : Json :=
  .object [("name", .string config.name), ("trace_rejections", .bool config.traceRejections)]

/-- A configuration as diagnostics show it. -/
def inspect (config : Config) : String :=
  "TableConfig \x7b name: " ++ Text.quoted config.name ++ ", trace_rejections: " ++
    toString config.traceRejections ++ " \x7d"

end Config

end Multimethod
