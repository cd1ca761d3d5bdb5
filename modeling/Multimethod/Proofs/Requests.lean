import Multimethod.Proofs.Simulation

/-!
What a table asks of its host while it resolves a call, kept as a list. A host can be watched
without disturbing it: `resolve_unwatched`. Once the search for a binding is over, what remains to
be asked is fixed by what was found: `resolve_ends`.
-/
namespace Multimethod

/-- One thing that a table asks of its host, with what it gets. -/
inductive Request (P H : Type) where
  | test (predicate : P) (value : Value) (answer : Bool)
  | run (handler : Handler H) (args : List Value) (result : Value)
  | emit (event : Event)

namespace Request

variable {P H : Type}

/-- The predicate that was run, the value it was run on and its answer. -/
def question? : Request P H → Option (P × Value × Bool)
  | .test predicate value answer => some (predicate, value, answer)
  | _ => none

/-- The handler that was run, its arguments and its result. -/
def execution? : Request P H → Option (Handler H × List Value × Value)
  | .run handler args result => some (handler, args, result)
  | _ => none

def questions (requests : List (Request P H)) : List (P × Value × Bool) :=
  requests.filterMap question?

def executions (requests : List (Request P H)) : List (Handler H × List Value × Value) :=
  requests.filterMap execution?

@[simp] theorem questions_append (before after : List (Request P H)) :
    questions (before ++ after) = questions before ++ questions after :=
  List.filterMap_append

@[simp] theorem executions_append (before after : List (Request P H)) :
    executions (before ++ after) = executions before ++ executions after :=
  List.filterMap_append

end Request

/-- The state of a host, with what was asked of it so far. -/
structure Watched (P H σ : Type) where
  state : σ
  requests : List (Request P H)

variable {P H σ : Type}

/-- Does something and adds the request that it answers to the list. -/
def watch {α : Type} (work : StateM σ α) (request : α → Request P H) :
    StateM (Watched P H σ) α :=
  fun watched =>
    let (result, state) := work.run watched.state
    (result, ⟨state, watched.requests ++ [request result]⟩)

/-- A host that does what another one does and keeps a list of it. -/
def Host.watched (host : Host P H (StateM σ)) : Host P H (StateM (Watched P H σ)) where
  test p value := watch (host.test p value) (.test p value)
  run body args := watch (host.run body args) (.run (.native body) args)
  call function args := watch (host.call function args) (.run (.function function) args)
  emit event := watch (host.emit event) fun _ => .emit event

theorem run_then {σ α β : Type} (first : StateM σ α) (second : α → StateM σ β) (state : σ) :
    (first >>= second).run state = (second (first.run state).1).run (first.run state).2 := rfl

/-- What was done with a watched host was done with the host itself. -/
def unwatched (P H σ : Type) : Simulation (StateM (Watched P H σ)) (StateM σ) where
  rel x y := ∀ watched, y.run watched.state = ((x.run watched).1, (x.run watched).2.state)
  pure _ _ := rfl
  bind first rest watched := by
    rw [run_then, run_then, first watched]
    exact rest _ _

private theorem run_unwatched (host : Host P H (StateM σ)) (handler : Handler H) (args : List Value) :
    (unwatched P H σ).rel (handler.run host.watched args) (handler.run host args) := by
  cases handler with
  | native body => exact fun _ => rfl
  | function f => exact fun _ => rfl

theorem firstAccepting_unwatched (host : Host P H (StateM σ)) (table : Table P H)
    (args : List Value) :
    (unwatched P H σ).rel (table.firstAccepting host.watched args) (table.firstAccepting host args) :=
  (unwatched P H σ).firstAccepting_alike (fun _ _ _ => rfl) (fun _ _ => rfl) table args

theorem resolve_unwatched (host : Host P H (StateM σ)) (table : Table P H) (args : List Value) :
    (unwatched P H σ).rel (table.resolve host.watched args) (table.resolve host args) :=
  (unwatched P H σ).resolve_alike (fun _ _ _ => rfl) (fun _ _ => rfl) (run_unwatched host) table args

/-- How a call ends once the search for its binding is over: what is asked then, and the outcome. -/
inductive Table.Ends (table : Table P H) (args : List Value) :
    Option (Nat × Binding P H) → Outcome → List (Request P H) → Prop where
  | matched {index : Nat} {binding : Binding P H} {value : Value} :
      Ends table args (some (index, binding)) (.matched index value)
        [.emit (.dispatching table.config.name index binding.schema.display),
         .run binding.handler args value]
  | fallback {fallback : Handler H} {value : Value} (given : table.fallback = some fallback) :
      Ends table args none (.fallback value)
        [.emit (.fallingBack table.config.name args.length), .run fallback [] value]
  | noMatch (missing : table.fallback = none) :
      Ends table args none .noMatch [.emit (.unmatched table.config.name args.length)]

/-- A call ends with the index of the binding that was found for it, and with none if none was. -/
theorem Table.Ends.index {table : Table P H} {args : List Value} {found : Option (Nat × Binding P H)}
    {outcome : Outcome} {ending : List (Request P H)} (ends : table.Ends args found outcome ending) :
    outcome.index? = found.map Prod.fst := by
  cases ends <;> rfl

/-- A watched handler adds itself, its arguments and its result to the list, and nothing else. -/
theorem run_watched (host : Host P H (StateM σ)) (handler : Handler H) (args : List Value)
    (watched : Watched P H σ) :
    ((handler.run host.watched args).run watched).2.requests = watched.requests ++
      [.run handler args ((handler.run host.watched args).run watched).1] := by
  cases handler with
  | native body => rfl
  | function f => rfl

/-- After the search the table asks for one event and at most one handler. -/
theorem resolve_ends (host : Host P H (StateM σ)) (table : Table P H) (args : List Value)
    (watched : Watched P H σ) :
    ∃ ending, table.Ends args ((table.firstAccepting host.watched args).run watched).1
        ((table.resolve host.watched args).run watched).1 ending ∧
      ((table.resolve host.watched args).run watched).2.requests =
        ((table.firstAccepting host.watched args).run watched).2.requests ++ ending := by
  unfold Table.resolve
  rw [run_then]
  generalize (table.firstAccepting host.watched args).run watched = search
  obtain ⟨found, after⟩ := search
  cases found with
  | some found =>
    refine ⟨_, .matched, ?_⟩
    rw [run_then, run_then]
    exact (run_watched host _ _ _).trans (List.append_assoc _ _ _)
  | none =>
    simp only
    cases given : table.fallback with
    | some fallback =>
      refine ⟨_, .fallback given, ?_⟩
      rw [run_then, run_then]
      exact (run_watched host _ _ _).trans (List.append_assoc _ _ _)
    | none => exact ⟨_, .noMatch given, rfl⟩

theorem resolve_index (host : Host P H (StateM σ)) (table : Table P H) (args : List Value)
    (state : σ) :
    ((table.resolve host args).run state).1.index? =
      ((table.firstAccepting host args).run state).1.map Prod.fst := by
  obtain ⟨ending, ends, -⟩ := resolve_ends host table args ⟨state, []⟩
  rw [resolve_unwatched host table args ⟨state, []⟩,
    firstAccepting_unwatched host table args ⟨state, []⟩]
  exact ends.index

end Multimethod
