import Multimethod.Table

/-!
Resolving calls: the first binding whose schema accepts the arguments handles the call with all of
them, the trailing nulls included. If there is none, the fallback runs without arguments.

Predicates and handlers belong to a host, and what they do is a computation of the host's. What a
table asks of it, and in which order, is all that this module decides.
-/
namespace Multimethod

/-- What a table needs to work: how to run a predicate, how to run a handler, how to call a function
value, and where events go. -/
structure Host (P H : Type) (m : Type → Type) where
  test : P → Value → m Bool
  run : H → List Value → m Value
  call : Function → List Value → m Value
  emit : Event → m Unit

/-- How a call ended. That nothing accepted it is an outcome of its own, apart from a handler that
returned null. -/
inductive Outcome where
  | matched (index : Nat) (value : Value)
  | fallback (value : Value)
  | noMatch

namespace Outcome

instance : Inhabited Outcome := ⟨.noMatch⟩

/-- Whether a binding accepted the call. -/
def isMatch : Outcome → Bool
  | .matched _ _ => true
  | _ => false

/-- Whether nothing ran. -/
def isNoMatch : Outcome → Bool
  | .noMatch => true
  | _ => false

/-- The index of the binding that accepted the call. -/
def index? : Outcome → Option Nat
  | .matched index _ => some index
  | _ => none

/-- What the handler or the fallback returned. -/
def value? : Outcome → Option Value
  | .matched _ value => some value
  | .fallback value => some value
  | .noMatch => none

/-- Outcomes are equal if they ended alike with equal values. -/
instance : BEq Outcome where
  beq
    | .matched i v, .matched j w => i == j && v == w
    | .fallback v, .fallback w => v == w
    | .noMatch, .noMatch => true
    | _, _ => false

end Outcome

variable {P H : Type} {m : Type → Type} [Monad m]

/-- Runs a handler. -/
def Handler.run (host : Host P H m) : Handler H → List Value → m Value
  | .native body, args => host.run body args
  | .function f, args => host.call f args

namespace Binding

/-- Whether the schema of a binding accepts a call. -/
def accepts (host : Host P H m) (binding : Binding P H) (args : List Value) : m Bool :=
  binding.schema.accepts host.test args

/-- Runs the handler of a binding, whether or not its schema accepts the call. -/
def run (host : Host P H m) (binding : Binding P H) (args : List Value) : m Value :=
  binding.handler.run host args

end Binding

namespace Table

/-- The first of several bindings that accepts a call, with its index; `index` is that of the first
one. Each one that rejects the call is reported if the table says so. -/
def firstFrom (host : Host P H m) (config : Config) (args : List Value) (index : Nat) :
    List (Binding P H) → m (Option (Nat × Binding P H))
  | [] => pure none
  | binding :: rest => do
    if ← binding.accepts host args then
      return some (index, binding)
    if config.traceRejections then
      host.emit (.rejected config.name index binding.schema.display args.length)
    firstFrom host config args (index + 1) rest

/-- The first binding that accepts a call, with its index. No handler runs. -/
def firstAccepting (host : Host P H m) (table : Table P H) (args : List Value) :
    m (Option (Nat × Binding P H)) :=
  firstFrom host table.config args 0 table.bindings

/-- Resolves a call. -/
def resolve (host : Host P H m) (table : Table P H) (args : List Value) : m Outcome := do
  match ← table.firstAccepting host args with
  | some (index, binding) =>
    host.emit (.dispatching table.config.name index binding.schema.display)
    return .matched index (← binding.run host args)
  | none =>
    match table.fallback with
    | some fallback =>
      host.emit (.fallingBack table.config.name args.length)
      return .fallback (← fallback.run host [])
    | none =>
      host.emit (.unmatched table.config.name args.length)
      return .noMatch

/-- Resolves a call and returns what was returned, if anything ran. -/
def evaluate (host : Host P H m) (table : Table P H) (args : List Value) : m (Option Value) :=
  Outcome.value? <$> table.resolve host args

end Table

end Multimethod
