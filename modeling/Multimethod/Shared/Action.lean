import Multimethod.Shared.Cell
import Multimethod.Table.Resolve

/-!
A table that is shared: its handlers may call it and extend it while it resolves a call.

Resolving takes a snapshot and works on that, so what a handler registers does not touch the call
it is running in. The lock on the table is taken for the moment of a snapshot or of an update
only; handlers, predicates and fallbacks run while it is free.
-/
namespace Multimethod.Shared

/-- What a handler does when it runs: it returns a value, or it takes one more step and goes on with
the result of that. `E` names effects of the host's own. -/
inductive Action (P E : Type) where
  | done (value : Value)
  /-- An effect that concerns the host alone. -/
  | effect (effect : E) (next : Value → Action P E)
  /-- Calls the shared table. -/
  | evaluate (args : List Value) (next : Option Value → Action P E)
  /-- Extends the shared table; the result is why a step was refused, if one was. -/
  | update (steps : List (Registration P (List Value → Action P E)))
      (next : Option Error → Action P E)

/-- The body of a handler of a shared table. -/
abbrev Procedure (P E : Type) := List Value → Action P E

/-- A table of procedures. -/
abbrev SharedTable (P E : Type) := Table P (Procedure P E)

/-- What a shared table needs of its host: predicates, effects, and the bodies of function values.
`σ` is the state of the host. -/
structure Surroundings (P E σ : Type) where
  test : P → Value → StateM σ Bool
  perform : E → StateM σ Value
  body : Function → Procedure P E

/-- Everything that changes while calls are resolved. -/
structure World (P E σ : Type) where
  cell : Cell (SharedTable P E)
  /-- Whether somebody is taking a snapshot or updating at this moment. -/
  locked : Bool
  host : σ
  /-- The events so far, in order. -/
  log : List Event

/-- Why a computation stopped without a result. -/
inductive Halt where
  /-- Calls were nested deeper than the bound. -/
  | tooDeep
  /-- The lock was wanted by the one who held it. -/
  | deadlock
deriving DecidableEq, Repr

/-- A computation in a world. -/
abbrev Run (P E σ : Type) := StateT (World P E σ) (Except Halt)

variable {P E σ : Type}

/-- A world with the given table in which nothing has happened yet. -/
def World.new (table : SharedTable P E) (host : σ) : World P E σ :=
  ⟨.new table, false, host, []⟩

/-- Does one thing under the lock. -/
def locking {α : Type} (work : Cell (SharedTable P E) → α × Cell (SharedTable P E)) :
    Run P E σ α := do
  if (← get).locked then throw .deadlock
  modify fun world => { world with locked := true }
  let world ← get
  let (result, cell) := work world.cell
  set { world with cell, locked := false }
  return result

/-- Takes a snapshot of the shared table. -/
def takeSnapshot : Run P E σ Snapshot :=
  locking Cell.snapshot

/-- Gives a snapshot back. This needs no lock. -/
def releaseSnapshot (snapshot : Snapshot) : Run P E σ Unit :=
  modify fun world => { world with cell := world.cell.release snapshot }

/-- The table that a snapshot holds. -/
def tableOf (snapshot : Snapshot) : Run P E σ (SharedTable P E) := do
  return ((← get).cell.read? snapshot).getD default

/-- Notes an event. -/
def note (event : Event) : Run P E σ Unit :=
  modify fun world => { world with log := world.log ++ [event] }

/-- Takes registration steps on the shared table, all of them under one lock. -/
def update (steps : List (Registration P (Procedure P E))) : Run P E σ (Option Error) := do
  let (events, error) ← locking fun cell =>
    cell.update fun table =>
      let after := table.registerAll steps
      (after.table, after.events, after.error)
  events.forM note
  return error

/-- Runs a computation of the host's. -/
def onHost {α : Type} (work : StateM σ α) : Run P E σ α :=
  modifyGet fun world =>
    let (result, host) := work.run world.host
    (result, { world with host })

/-- Does what an action says; `call` calls the shared table. -/
def Action.run (surroundings : Surroundings P E σ)
    (call : List Value → Run P E σ (Option Value)) : Action P E → Run P E σ Value
  | .done value => return value
  | .effect e next => do
    (next (← onHost (surroundings.perform e))).run surroundings call
  | .evaluate args next => do
    (next (← call args)).run surroundings call
  | .update steps next => do
    (next (← Shared.update steps)).run surroundings call

/-- The host of a table whose handlers call the shared table by `call`. -/
def hostWith (surroundings : Surroundings P E σ) (call : List Value → Run P E σ (Option Value)) :
    Host P (Procedure P E) (Run P E σ) where
  test test value := onHost (surroundings.test test value)
  run body args := (body args).run surroundings call
  call function args := (surroundings.body function args).run surroundings call
  emit := note

/-- Resolves a call on a snapshot of the shared table. -/
def resolveWith (surroundings : Surroundings P E σ)
    (call : List Value → Run P E σ (Option Value)) (args : List Value) : Run P E σ Outcome := do
  let snapshot ← takeSnapshot
  let table ← tableOf snapshot
  let outcome ← table.resolve (hostWith surroundings call) args
  releaseSnapshot snapshot
  return outcome

/-- Resolves a call on the shared table and returns what was returned, if anything ran. Calls may be
nested up to a depth. -/
def evaluate (surroundings : Surroundings P E σ) (depth : Nat) (args : List Value) :
    Run P E σ (Option Value) :=
  match depth with
  | 0 => throw .tooDeep
  | depth + 1 =>
    Outcome.value? <$> resolveWith surroundings (evaluate surroundings depth) args

/-- The host of a table whose handlers call the shared table, nested up to a depth. -/
def host (surroundings : Surroundings P E σ) (depth : Nat) :
    Host P (Procedure P E) (Run P E σ) :=
  hostWith surroundings (evaluate surroundings depth)

/-- Resolves a call on the shared table, with calls nested in it up to a depth. -/
def resolve (surroundings : Surroundings P E σ) (depth : Nat) (args : List Value) :
    Run P E σ Outcome :=
  resolveWith surroundings (evaluate surroundings depth) args

end Multimethod.Shared
