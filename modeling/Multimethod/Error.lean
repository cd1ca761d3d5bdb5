import Multimethod.Json.Fault

/-!
Why a rule, a schema, a handler or a table definition is refused. Resolving a call never fails; a
call that nothing accepts is an outcome of its own.
-/
namespace Multimethod

/-- The causes of a refusal. -/
inductive Error where
  /-- The text is no rule. -/
  | invalidRule (text : String)
  | emptyUnion
  /-- A union has the union of this text among its members. -/
  | nestedUnion (text : String)
  /-- A handler was given as a value of this kind. -/
  | invalidHandler (kind : String)
  /-- A fallback was given as a value of this kind. -/
  | invalidFallback (kind : String)
  | json (fault : Json.Fault)

namespace Error

/-- The part of the input that is at fault. -/
inductive Origin where
  | rule
  | handler
  | json
deriving DecidableEq

/-- The part of the input that an error blames. -/
def origin : Error → Origin
  | .invalidRule _ => .rule
  | .emptyUnion => .rule
  | .nestedUnion _ => .rule
  | .invalidHandler _ => .handler
  | .invalidFallback _ => .handler
  | .json _ => .json

/-- The name of a part of the input. -/
def Origin.name : Origin → String
  | .rule => "rule"
  | .handler => "handler"
  | .json => "JSON"

/-- An error in words. Of a faulty document only that much is said. -/
def message : Error → String
  | .invalidRule text =>
    "invalid rule `" ++ text ++ "`; if you expected this to work, first remove any whitespace"
  | .emptyUnion => "union rules must contain at least one member"
  | .nestedUnion text => "union rules cannot contain another union: `" ++ text ++ "`"
  | .invalidHandler kind => "handlers may only be functions, found " ++ kind
  | .invalidFallback kind => "fallback may only be a function, found " ++ kind
  | .json _ => "JSON error"

end Error

end Multimethod
