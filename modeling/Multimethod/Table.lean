import Multimethod.Config
import Multimethod.Event
import Multimethod.Schema

/-!
Dispatch tables: bindings of schemas to handlers, in the order of their registration, and perhaps a
fallback. Registration only ever appends a binding or replaces the fallback, and a registration
that is refused changes nothing.
-/
namespace Multimethod

/-- What handles a call: something of the host's own, or a function value. -/
inductive Handler (H : Type) where
  | native (body : H)
  | function (function : Function)

/-- A schema and what handles the calls that it accepts. -/
structure Binding (P H : Type) where
  schema : Schema P
  handler : Handler H

/-- Bindings in order of registration, which is their order of precedence, and a fallback that runs
without arguments when none of them accepts a call. -/
structure Table (P H : Type) where
  config : Config := {}
  bindings : List (Binding P H) := []
  fallback : Option (Handler H) := none

/-- A step that registers a binding or a fallback. The schema may have been refused already; that
comes to light when the step is taken. -/
inductive Registration (P H : Type) where
  | rule (schema : Except Error (Schema P)) (body : H)
  /-- The handler is given as a value. -/
  | ruleValue (schema : Except Error (Schema P)) (handler : Value)
  | fallback (body : H)
  /-- The fallback is given as a value. -/
  | fallbackValue (fallback : Value)

/-- A handler that was given as a value: only functions will do. -/
def Handler.ofValue? {H : Type} : Value → Option (Handler H)
  | .function f => some (.function f)
  | _ => none

namespace Table

variable {P H : Type}

/-- A table without bindings. -/
def empty (config : Config) : Table P H := { config }

instance : Inhabited (Table P H) := ⟨empty {}⟩

/-- The number of bindings. -/
def length (table : Table P H) : Nat :=
  table.bindings.length

/-- Whether there is a fallback. -/
def hasFallback (table : Table P H) : Bool :=
  table.fallback.isSome

/-- The table with one more binding, and the event that reports it. -/
def push (table : Table P H) (schema : Schema P) (handler : Handler H) : Table P H × List Event :=
  ({ table with bindings := table.bindings ++ [⟨schema, handler⟩] },
   [.registered table.config.name table.length schema.display])

/-- Takes one registration step: the table after it with the events in between, or why the step is
refused. A refused schema comes before a refused handler. -/
def register (table : Table P H) : Registration P H → Except Error (Table P H × List Event)
  | .rule schema body => do
    return table.push (← schema) (.native body)
  | .ruleValue schema handler => do
    let schema ← schema
    match Handler.ofValue? handler with
    | some function => return table.push schema function
    | none => throw (.invalidHandler handler.kind)
  | .fallback body => return ({ table with fallback := some (.native body) }, [])
  | .fallbackValue fallback =>
    match Handler.ofValue? fallback with
    | some function => return ({ table with fallback := some function }, [])
    | none => throw (.invalidFallback fallback.kind)

/-- What a sequence of registration steps leaves behind. -/
structure Registered (P H : Type) where
  table : Table P H
  events : List Event
  /-- Why the step at which the sequence stopped was refused. -/
  error : Option Error

/-- Takes registration steps in order, up to the first that is refused. The steps before it stay. -/
def registerAll (table : Table P H) : List (Registration P H) → Registered P H
  | [] => ⟨table, [], none⟩
  | step :: rest =>
    match table.register step with
    | .error error => ⟨table, [], some error⟩
    | .ok (next, events) =>
      let after := next.registerAll rest
      { after with events := events ++ after.events }

/-- A table as diagnostics show it; of its handlers nothing can be shown. -/
def inspect (table : Table P H) : String :=
  let bindings := table.bindings.map fun binding =>
    "Binding \x7b schema: " ++ Text.quoted binding.schema.display ++ ", .. \x7d"
  "DispatchTable \x7b config: " ++ table.config.inspect ++ ", bindings: [" ++
    ", ".intercalate bindings ++ "], has_fallback: " ++ toString table.hasFallback ++ " \x7d"

end Table

end Multimethod
