import Multimethod.Proofs.Growth
import Multimethod.Shared.Action

/-!
The lock of a shared table. What starts while it is free leaves it free, and leaves what each
snapshot reads that is held: `whileFree` says so of computations, two at a time, so that a host may
be given a guard who looks at the lock before each predicate, handler and fallback. The guard never
finds it taken, however deep calls are nested: `guardedResolve_alike`.
-/
namespace Multimethod.Shared

variable {P E σ : Type}

namespace World

/-- What computations keep: the lock is free afterwards, and each snapshot that was held is still
held and reads what it read. -/
structure Kept (world after : World P E σ) : Prop where
  free : after.locked = false
  held : after.cell.held = world.cell.held
  reads : ∀ snapshot : Snapshot, snapshot.slot ∈ world.cell.held →
    after.cell.read? snapshot = world.cell.read? snapshot

theorem Kept.refl {world : World P E σ} (free : world.locked = false) : world.Kept world :=
  ⟨free, rfl, fun _ _ => rfl⟩

theorem Kept.trans {world middle after : World P E σ} (first : world.Kept middle)
    (second : middle.Kept after) : world.Kept after where
  free := second.free
  held := second.held.trans first.held
  reads snapshot held :=
    (second.reads snapshot (first.held ▸ held)).trans (first.reads snapshot held)

/-- How a computation may end that starts while the lock is free. -/
def EndsWell {α : Type} (world : World P E σ) : Except Halt (α × World P E σ) → Prop
  | .ok (_, after) => world.Kept after
  | .error halt => halt = .tooDeep

theorem EndsWell.after {α : Type} {world middle : World P E σ}
    {result : Except Halt (α × World P E σ)} (kept : world.Kept middle)
    (ends : middle.EndsWell result) : world.EndsWell result := by
  cases result with
  | error halt => exact ends
  | ok result => exact kept.trans ends

def withSnapshot (world : World P E σ) : World P E σ :=
  { world with cell := world.cell.snapshot.2 }

def without (world : World P E σ) (snapshot : Snapshot) : World P E σ :=
  { world with cell := world.cell.release snapshot }

def registered (world : World P E σ) (steps : List (Registration P (Procedure P E))) :
    World P E σ :=
  { world with
    cell := (world.cell.update (Table.registering steps)).2
    log := world.log ++ (world.cell.content.registerAll steps).events }

/-- What is kept while one more snapshot is held is kept when that one is given back. -/
theorem Kept.without {world after : World P E σ} (kept : world.withSnapshot.Kept after) :
    world.Kept (after.without world.cell.snapshot.1) where
  free := kept.free
  held := by
    have held : after.cell.held = world.cell.current :: world.cell.held := kept.held
    simp [World.without, Cell.release, Cell.snapshot, held]
  reads snapshot held := kept.reads snapshot (List.mem_cons_of_mem _ held)

private theorem registered_kept {world : World P E σ} (free : world.locked = false)
    (steps : List (Registration P (Procedure P E))) : world.Kept (world.registered steps) where
  free := free
  held := world.cell.held_update (Table.registering steps)
  reads snapshot held := world.cell.read?_update (Table.registering steps) snapshot held

end World

/-! ### Under the lock -/

section

variable {α β : Type} {work : Run P E σ α} {next : α → Run P E σ β} {world : World P E σ}

theorem run_next {result : α} {middle : World P E σ} (first : work.run world = .ok (result, middle)) :
    (work >>= next).run world = (next result).run middle := by
  rw [StateT.run_bind, first]
  rfl

private theorem run_halts {halt : Halt} (first : work.run world = .error halt) :
    (work >>= next).run world = .error halt := by
  rw [StateT.run_bind, first]
  rfl

/-- Where two computations end one after the other, so did each of them. -/
theorem ran_next {result : β} {after : World P E σ}
    (ran : (work >>= next).run world = .ok (result, after)) :
    ∃ value middle, work.run world = .ok (value, middle) ∧
      (next value).run middle = .ok (result, after) := by
  cases first : work.run world with
  | error halt =>
    rw [run_halts first] at ran
    cases ran
  | ok got =>
    rw [run_next first] at ran
    exact ⟨got.1, got.2, rfl, ran⟩

end

private theorem locking_free {α : Type} (work : Cell (SharedTable P E) → α × Cell (SharedTable P E))
    {world : World P E σ} (free : world.locked = false) :
    (locking work).run world =
      .ok ((work world.cell).1, { world with cell := (work world.cell).2 }) := by
  obtain ⟨cell, locked, host, log⟩ := world
  cases free
  rfl

private theorem notes_run (events : List Event) (world : World P E σ) :
    (events.forM note : Run P E σ PUnit).run world =
      .ok (⟨⟩, { world with log := world.log ++ events }) := by
  induction events generalizing world with
  | nil =>
    rw [List.append_nil]
    rfl
  | cons event rest ih =>
    refine (ih { world with log := world.log ++ [event] }).trans ?_
    rw [List.append_assoc]
    rfl

theorem update_free (steps : List (Registration P (Procedure P E))) {world : World P E σ}
    (free : world.locked = false) :
    (update steps).run world =
      .ok ((world.cell.content.registerAll steps).error, world.registered steps) := by
  unfold update
  exact (run_next (locking_free _ free)).trans (run_next (notes_run _ _))

/-- Resolves a call on a snapshot of the shared table, on behalf of a host. -/
def resolveFor (host : Host P (Procedure P E) (Run P E σ)) (args : List Value) :
    Run P E σ Outcome := do
  let snapshot ← takeSnapshot
  let table ← tableOf snapshot
  let outcome ← table.resolve host args
  releaseSnapshot snapshot
  return outcome

/-- A call is resolved on the table as of now, while one more snapshot is held. -/
theorem resolveFor_free (host : Host P (Procedure P E) (Run P E σ)) (args : List Value)
    {world : World P E σ} (free : world.locked = false) :
    (resolveFor host args).run world =
      ((world.cell.content.resolve host args).run world.withSnapshot).map fun (outcome, after) =>
        (outcome, after.without world.cell.snapshot.1) := by
  have reading : (tableOf world.cell.snapshot.1).run world.withSnapshot =
      .ok (world.cell.content, world.withSnapshot) :=
    congrArg (fun seen : Option (SharedTable P E) => Except.ok (seen.getD default, world.withSnapshot))
      world.cell.read?_snapshot
  unfold resolveFor
  refine (run_next (locking_free Cell.snapshot free)).trans ((run_next reading).trans ?_)
  cases resolved : (world.cell.content.resolve host args).run world.withSnapshot with
  | error halt => exact run_halts resolved
  | ok result => exact run_next resolved

/-! ### Whatever starts while the lock is free -/

/-- Two computations do the same in each world whose lock is free, and end well there. -/
def whileFree (P E σ : Type) : Simulation (Run P E σ) (Run P E σ) where
  rel x y := ∀ world, world.locked = false → x.run world = y.run world ∧ world.EndsWell (y.run world)
  pure _ _ free := ⟨rfl, .refl free⟩
  bind {_ _ _ second _ _} first rest world free := by
    obtain ⟨same, ends⟩ := first world free
    cases ran : second.run world with
    | error halt =>
      rw [ran] at same ends
      rw [run_halts same, run_halts ran]
      exact ⟨rfl, ends⟩
    | ok result =>
      rw [ran] at same ends
      rw [run_next same, run_next ran]
      obtain ⟨same', ends'⟩ := rest result.1 result.2 ends.free
      exact ⟨same', ends'.after ends⟩

theorem alike_itself {α : Type} {work other : Run P E σ α} (alike : (whileFree P E σ).rel work other) :
    (whileFree P E σ).rel other other :=
  fun world free => ⟨rfl, (alike world free).2⟩

theorem kept_of_alike {α : Type} {work other : Run P E σ α} (alike : (whileFree P E σ).rel work other)
    {world after : World P E σ} {result : α} (ran : other.run world = .ok (result, after))
    (free : world.locked = false) : world.Kept after := by
  have ends := (alike world free).2
  rw [ran] at ends
  exact ends

/-- Does something, if nobody holds the lock. -/
def whenFree {α : Type} (work : Run P E σ α) : Run P E σ α := do
  if (← get).locked then throw .deadlock
  work

/-- A host with a guard who looks at the lock before each predicate, handler and fallback. -/
def guarded (host : Host P (Procedure P E) (Run P E σ)) : Host P (Procedure P E) (Run P E σ) where
  test p value := whenFree (host.test p value)
  run body args := whenFree (host.run body args)
  call function args := whenFree (host.call function args)
  emit := host.emit

private theorem whenFree_alike {α : Type} {work other : Run P E σ α}
    (alike : (whileFree P E σ).rel work other) :
    (whileFree P E σ).rel (whenFree work) other := by
  intro world free
  obtain ⟨same, ends⟩ := alike world free
  refine ⟨?_, ends⟩
  rw [← same]
  obtain ⟨cell, locked, host, log⟩ := world
  cases free
  rfl

private theorem onHost_alike {α : Type} (work : StateM σ α) :
    (whileFree P E σ).rel (onHost work) (onHost work) :=
  fun _ free => ⟨rfl, free, rfl, fun _ _ => rfl⟩

private theorem note_alike (event : Event) : (whileFree P E σ).rel (note event) (note event) :=
  fun _ free => ⟨rfl, free, rfl, fun _ _ => rfl⟩

private theorem update_alike (steps : List (Registration P (Procedure P E))) :
    (whileFree P E σ).rel (update steps) (update steps) := by
  intro world free
  refine ⟨rfl, ?_⟩
  rw [update_free steps free]
  exact World.registered_kept free steps

variable (s : Surroundings P E σ) {call call' : List Value → Run P E σ (Option Value)}

/-- What handlers do is alike if they call the shared table alike. The recursion is that of the
action, whose updates hold actions in turn. -/
theorem action_alike (calls : ∀ args, (whileFree P E σ).rel (call args) (call' args)) :
    (action : Action P E) → (whileFree P E σ).rel (action.run s call) (action.run s call')
  | .done value => (whileFree P E σ).pure value
  | .effect e next => (whileFree P E σ).bind (onHost_alike (s.perform e)) fun result =>
    action_alike calls (next result)
  | .evaluate args next => (whileFree P E σ).bind (calls args) fun result =>
    action_alike calls (next result)
  | .update steps next => (whileFree P E σ).bind (update_alike steps) fun refused =>
    action_alike calls (next refused)

private theorem resolveFor_alike (calls : ∀ args, (whileFree P E σ).rel (call args) (call' args))
    (args : List Value) :
    (whileFree P E σ).rel (resolveFor (guarded (hostWith s call)) args)
      (resolveWith s call' args) := by
  have runs : ∀ (handler : Handler (Procedure P E)) args, (whileFree P E σ).rel
      (handler.run (guarded (hostWith s call)) args) (handler.run (hostWith s call') args) := by
    intro handler args
    cases handler with
    | native body => exact whenFree_alike (action_alike s calls _)
    | function f => exact whenFree_alike (action_alike s calls _)
  have resolves := fun table : SharedTable P E =>
    (whileFree P E σ).resolve_alike (fun p value => whenFree_alike (onHost_alike (s.test p value)))
      note_alike runs table args
  intro world free
  -- The call goes on in a world with one more snapshot, which is given back when it is over.
  obtain ⟨same, ends⟩ := resolves world.cell.content world.withSnapshot free
  rw [show resolveWith s call' args = resolveFor (hostWith s call') args from rfl,
    resolveFor_free _ args free, resolveFor_free _ args free, same]
  refine ⟨rfl, ?_⟩
  generalize (world.cell.content.resolve (hostWith s call') args).run world.withSnapshot = result at ends
  cases result with
  | error halt => exact ends
  | ok result => exact World.Kept.without ends

/-- Evaluates a call as `evaluate` does, with a guard at every depth. -/
def guardedEvaluate (depth : Nat) (args : List Value) : Run P E σ (Option Value) :=
  match depth with
  | 0 => throw .tooDeep
  | depth + 1 =>
    Outcome.value? <$> resolveFor (guarded (hostWith s (guardedEvaluate depth))) args

/-- Resolves a call as `resolve` does, with a guard at every depth. -/
def guardedResolve (depth : Nat) (args : List Value) : Run P E σ Outcome :=
  resolveFor (guarded (hostWith s (guardedEvaluate s depth))) args

theorem guardedEvaluate_alike (depth : Nat) (args : List Value) :
    (whileFree P E σ).rel (guardedEvaluate s depth args) (evaluate s depth args) := by
  induction depth generalizing args with
  | zero => exact fun _ _ => ⟨rfl, rfl⟩
  | succ depth ih =>
    unfold guardedEvaluate evaluate
    rw [map_eq_pure_bind, map_eq_pure_bind]
    exact (whileFree P E σ).bind (resolveFor_alike s ih args) fun _ => (whileFree P E σ).pure _

/-- However deep calls are nested, the guard never finds the lock taken, and when the call is over
the lock is free and every other snapshot reads what it read. -/
theorem guardedResolve_alike (depth : Nat) (args : List Value) :
    (whileFree P E σ).rel (guardedResolve s depth args) (resolve s depth args) :=
  resolveFor_alike s (guardedEvaluate_alike s depth) args

end Multimethod.Shared
