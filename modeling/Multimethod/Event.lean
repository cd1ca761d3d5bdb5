import Multimethod.Text.Terminal

/-!
Events: what a table and the command line report while they work. Events never influence what is
reported on.
-/
namespace Multimethod

/-- How much an event matters. -/
inductive Event.Level where
  | trace
  | debug
  | info
deriving DecidableEq

/-- Something that happened. -/
inductive Event where
  /-- A binding was added to a table. -/
  | registered (table : String) (index : Nat) (schema : String)
  /-- A binding did not accept a call of so many arguments. -/
  | rejected (table : String) (index : Nat) (schema : String) (arguments : Nat)
  /-- A binding is about to handle a call. -/
  | dispatching (table : String) (index : Nat) (schema : String)
  /-- No binding accepted a call; the fallback is about to run. -/
  | fallingBack (table : String) (arguments : Nat)
  /-- No binding accepted a call, and there is no fallback. -/
  | unmatched (table : String) (arguments : Nat)
  /-- A table was made from its definition. -/
  | built (table : String) (bindings : Nat) (hasFallback : Bool)
  /-- A definition is about to be read. -/
  | loading (path : String)
  /-- A call from the command line was resolved. -/
  | resolved (table : String) (arguments bindings : Nat)
deriving DecidableEq

namespace Event

/-- How much each event matters. -/
def level : Event → Level
  | .rejected _ _ _ _ => .trace
  | .resolved _ _ _ => .info
  | _ => .debug

/-- An event in words. -/
def message : Event → String
  | .registered table index schema =>
    table ++ ": registered binding #" ++ toString index ++ " " ++ schema
  | .rejected table index schema arguments =>
    table ++ ": binding #" ++ toString index ++ " " ++ schema ++ " rejected " ++
      toString arguments ++ " argument(s)"
  | .dispatching table index schema =>
    table ++ ": dispatching to binding #" ++ toString index ++ " " ++ schema
  | .fallingBack table arguments =>
    table ++ ": no binding matched " ++ toString arguments ++ " argument(s), running fallback"
  | .unmatched table arguments =>
    table ++ ": no binding matched " ++ toString arguments ++ " argument(s)"
  | .built table bindings hasFallback =>
    "built table '" ++ table ++ "' with " ++ toString bindings ++ " binding(s), fallback: " ++
      toString hasFallback
  | .loading path => "Loading table: " ++ path
  | .resolved table arguments bindings =>
    "Resolved " ++ toString arguments ++ " argument(s) against '" ++ table ++ "' (" ++
      toString bindings ++ " binding(s))"

/-- The name of a level in a log. -/
def Level.name : Level → String
  | .trace => "TRACE"
  | .debug => "DEBUG"
  | .info => "INFO"

/-- An event as a line of a log. -/
def line (event : Event) : String :=
  event.level.name ++ " " ++ event.message

/-- An event as a line on a terminal, to which no name in it can give orders. -/
def terminalLine (event : Event) : String :=
  event.level.name ++ " " ++ Text.disarmed event.message

end Event

end Multimethod
