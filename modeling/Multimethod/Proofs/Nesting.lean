import Multimethod.Proofs.Histories
import Multimethod.Proofs.Locking

/-!
Calls nested in calls, as a shared table computes them. With its lock, its snapshots and its bound on
the depth it does what the relation of histories tells and nothing else: `called_of_run`. And it does
all of that at some depth and at all greater ones: `called_reached`. So what histories say about calls
and updates holds of it: `nested_calls_keep_their_tables`.
-/
namespace Multimethod.Shared

variable {P E σ : Type}

/-! ### The computations -/

/-- The world in which the host and the log are those of a scene. -/
def World.staging (world : World P E σ) (scene : Scene P E σ) : World P E σ :=
  { world with host := scene.host, log := scene.log }

/-- A search does in a world what it does to the host and the log alone. -/
def onStage (P E σ : Type) : Simulation (Run P E σ) (StateM (σ × List Event)) where
  rel x y := ∀ world : World P E σ, x.run world =
    let (result, host, log) := y.run (world.host, world.log)
    .ok (result, { world with host, log })
  pure _ _ := rfl
  bind first rest world := (run_next (first world)).trans (rest _ _)

variable (s : Surroundings P E σ) (calls : List Value → Run P E σ (Option Value))

private theorem search_onStage (world : World P E σ) (args : List Value) :
    (world.cell.content.firstAccepting (hostWith s calls) args).run world =
      .ok ((world.scene.search s args).1, world.staging (world.scene.search s args).2) := by
  have tests : ∀ p value, (onStage P E σ).rel ((hostWith s calls).test p value)
      (s.searching.test p value) := fun _ _ _ => rfl
  have emits : ∀ event, (onStage P E σ).rel ((hostWith s calls).emit event)
      (s.searching.emit event) := fun _ _ => rfl
  exact (onStage P E σ).firstAccepting_alike tests emits world.cell.content args world

/-- What is left of a call when its search is over and somebody is to answer it. -/
def answering (event : Event) (handler : Handler (Procedure P E)) (given : List Value)
    (ending : Value → Outcome) : Run P E σ Outcome := do
  note event
  return ending (← handler.run (hostWith s calls) given)

private theorem answering_iff (event : Event) (handler : Handler (Procedure P E)) (given : List Value)
    (ending : Value → Outcome) (world after : World P E σ) (searched : Scene P E σ)
    (outcome : Outcome) :
    (answering s calls event handler given ending).run (world.staging searched) =
        .ok (outcome, after) ↔
      ∃ result, ((s.procedure handler given).run s calls).run (world.staging (searched.note event)) =
        .ok (result, after) ∧ outcome = ending result := by
  have unfolded : (answering s calls event handler given ending).run (world.staging searched) =
      (((s.procedure handler given).run s calls).run (world.staging (searched.note event))).map
        fun (result, after) => (ending result, after) := by
    cases handler <;> rfl
  rw [unfolded]
  cases ((s.procedure handler given).run s calls).run (world.staging (searched.note event)) with
  | error halt => exact ⟨fun same => (nomatch same), fun ⟨_, same, _⟩ => (nomatch same)⟩
  | ok answered =>
    obtain ⟨result, middle⟩ := answered
    constructor
    · intro same
      cases same
      exact ⟨result, rfl, rfl⟩
    · rintro ⟨_, same, rfl⟩
      cases same
      rfl

/-- A call that was begun in this world goes like this when it is resolved, where the procedure that
answers it, if any, runs as it does and leaves the world that it leaves. -/
inductive Resolves (world : World P E σ) (call : Call P E σ) : World P E σ → Prop where
  | answered {searched : Scene P E σ} {event : Event} {handler : Handler (Procedure P E)}
      {given : List Value} {result : Value} {after : World P E σ} (keeps : call.Keeps s searched)
      (ending : call.ending = [.emit event, .run handler given result])
      (ran : ((s.procedure handler given).run s calls).run (world.staging (searched.note event)) =
        .ok (result, after)) : Resolves world call after
  | unanswered {searched : Scene P E σ} {event : Event} (keeps : call.Keeps s searched)
      (ending : call.ending = [.emit event]) :
      Resolves world call (world.staging (searched.note event))

private theorem resolves_of_run (world : World P E σ) {after : World P E σ} {args : List Value}
    {outcome : Outcome}
    (ran : (world.cell.content.resolve (hostWith s calls) args).run world = .ok (outcome, after)) :
    ∃ found ending, Resolves s calls world ⟨world.scene, args, found, outcome, ending⟩ after := by
  unfold Table.resolve at ran
  rw [run_next (search_onStage s calls world args)] at ran
  generalize search : world.scene.search s args = searching at ran
  obtain ⟨found, searched⟩ := searching
  cases found with
  | some found =>
    obtain ⟨index, binding⟩ := found
    obtain ⟨result, handled, rfl⟩ :=
      (answering_iff s calls _ binding.handler args (.matched index) world after searched _).mp ran
    exact ⟨some (index, binding), _, .answered ⟨search, .matched⟩ rfl handled⟩
  | none =>
    cases given : world.cell.content.fallback with
    | some fallback =>
      simp only [given] at ran
      obtain ⟨result, handled, rfl⟩ :=
        (answering_iff s calls _ fallback [] .fallback world after searched _).mp ran
      refine ⟨none, _, .answered ⟨search, ?_⟩ rfl handled⟩
      exact .fallback given
    | none =>
      simp only [given] at ran
      cases ran
      refine ⟨none, _, .unanswered ⟨search, ?_⟩ rfl⟩
      exact .noMatch given

private theorem run_of_resolves {world after : World P E σ} {call : Call P E σ}
    (resolves : Resolves s calls world call after) (same : call.scene = world.scene) :
    (world.cell.content.resolve (hostWith s calls) call.args).run world =
      .ok (call.outcome, after) := by
  obtain ⟨scene, args, found, outcome, ending⟩ := call
  dsimp only at same
  subst same
  unfold Table.resolve
  dsimp only
  rw [run_next (search_onStage s calls world args)]
  cases resolves with
  | answered keeps shape ran =>
    obtain ⟨search, ends⟩ := keeps
    dsimp only at search ends shape
    rw [search]
    cases ends with
    | matched =>
      cases shape
      exact (answering_iff s calls _ _ args _ world after _ _).mpr ⟨_, ran, rfl⟩
    | fallback given =>
      cases shape
      simp only [show world.cell.content.fallback = _ from given]
      exact (answering_iff s calls _ _ [] .fallback world after _ _).mpr ⟨_, ran, rfl⟩
    | noMatch missing => cases shape
  | unanswered keeps shape =>
    obtain ⟨search, ends⟩ := keeps
    dsimp only at search ends shape
    rw [search]
    cases ends with
    | matched => cases shape
    | fallback given => cases shape
    | noMatch missing =>
      cases shape
      simp only [show world.cell.content.fallback = _ from missing]
      rfl

/-! ### Whatever is computed is told by the relation -/

private theorem registered_scene (world : World P E σ) (steps : List (Registration P (Procedure P E))) :
    (world.registered steps).scene = world.scene.registered steps :=
  congrArg (fun table => (⟨table, world.host, _⟩ : Scene P E σ))
    (world.cell.content_update (Table.registering steps))

/-- When the search of a call that began in this world is over, only the host and the log have
changed. -/
theorem Call.Keeps.staged {call : Call P E σ} {searched : Scene P E σ} {world : World P E σ}
    (keeps : call.Keeps s searched) (same : call.scene = world.scene) (event : Event) :
    (world.staging (searched.note event)).scene = searched.note event := by
  have unchanged : world.cell.content = searched.table :=
    (keeps.table.trans (congrArg Scene.table same)).symm
  exact congrArg (fun table => (⟨table, searched.host, _⟩ : Scene P E σ)) unchanged

/-- Calls end well, and the relation tells how they go. -/
structure Told : Prop where
  ends : ∀ args, (whileFree P E σ).rel (calls args) (calls args)
  called : ∀ args {world after value}, world.locked = false →
    (calls args).run world = .ok (value, after) →
      ∃ call inner, call.scene = world.scene ∧ call.args = args ∧ value = call.outcome.value? ∧
        Called s call inner after.scene

variable {s calls}

private theorem acts_of_run (told : Told s calls) :
    (action : Action P E) → ∀ {world after value},
      (action.run s calls).run world = .ok (value, after) → world.locked = false →
        ∃ history, Acts s action world.scene history value after.scene
  | .done value, _, _, _, ran, free => by
    cases ran
    exact ⟨[], .done⟩
  | .effect e next, _, _, _, ran, free => by
    obtain ⟨result, middle, first, ran⟩ := ran_next ran
    cases first
    obtain ⟨history, rest⟩ := acts_of_run told (next _) ran free
    exact ⟨history, .effect rest⟩
  | .update steps next, world, _, _, ran, free => by
    obtain ⟨refused, middle, first, ran⟩ := ran_next ran
    cases (update_free steps free).symm.trans first
    obtain ⟨history, rest⟩ := acts_of_run told (next _) ran free
    rw [registered_scene] at rest
    exact ⟨.update steps :: history, .update rest⟩
  | .evaluate args next, world, _, _, ran, free => by
    obtain ⟨answer, middle, first, ran⟩ := ran_next ran
    have kept : world.Kept middle := kept_of_alike (told.ends args) first free
    obtain ⟨call, inner, same, rfl, rfl, called⟩ := told.called args free first
    obtain ⟨later, rest⟩ := acts_of_run told (next _) ran kept.free
    rw [← same]
    exact ⟨.call call :: (inner ++ later), .evaluate called rest⟩

private theorem called_of_resolves (told : Told s calls) {call : Call P E σ} {world after : World P E σ}
    (resolves : Resolves s calls world call after) (same : call.scene = world.scene)
    (free : world.locked = false) : ∃ inner, Called s call inner after.scene := by
  cases resolves with
  | answered keeps ending ran =>
    obtain ⟨inner, handled⟩ := acts_of_run told _ ran free
    rw [keeps.staged s same] at handled
    exact ⟨inner, .answered keeps ending handled⟩
  | unanswered keeps ending =>
    rw [keeps.staged s same]
    exact ⟨[], .unanswered keeps ending⟩

/-- Resolving a call goes as the relation tells. -/
theorem called_of_run (told : Told s calls) {args : List Value} {world after : World P E σ}
    {outcome : Outcome} (free : world.locked = false)
    (ran : (resolveWith s calls args).run world = .ok (outcome, after)) :
    ∃ call inner, call.scene = world.scene ∧ call.args = args ∧ call.outcome = outcome ∧
      Called s call inner after.scene := by
  replace ran := (resolveFor_free (hostWith s calls) args free).symm.trans ran
  cases resolved : (world.cell.content.resolve (hostWith s calls) args).run world.withSnapshot with
  | error halt =>
    rw [resolved] at ran
    cases ran
  | ok result =>
    rw [resolved] at ran
    cases ran
    obtain ⟨found, ending, resolves⟩ := resolves_of_run s calls world.withSnapshot resolved
    obtain ⟨inner, called⟩ := called_of_resolves told resolves rfl free
    exact ⟨_, inner, rfl, rfl, rfl, called⟩

/-- At every depth, calls go as the relation tells. -/
theorem evaluate_told (depth : Nat) : Told s (evaluate s depth) := by
  have ends : ∀ depth args, (whileFree P E σ).rel (evaluate s depth args) (evaluate s depth args) :=
    fun depth args => alike_itself (guardedEvaluate_alike s depth args)
  induction depth with
  | zero => exact ⟨ends 0, fun args world after value free ran => (nomatch ran)⟩
  | succ depth told =>
    refine ⟨ends (depth + 1), fun args world after value free ran => ?_⟩
    unfold evaluate at ran
    rw [map_eq_pure_bind] at ran
    obtain ⟨outcome, middle, resolved, ran⟩ := ran_next ran
    cases ran
    obtain ⟨call, inner, same, asked, rfl, called⟩ := called_of_run told free resolved
    exact ⟨call, inner, same, asked, rfl, called⟩

/-! ### Whatever the relation tells is computed, at some depth and at all greater ones -/

/-- Where the lock is free, a computation gets from one scene to another with this result. -/
def Reaches {α : Type} (work : Run P E σ α) (scene : Scene P E σ) (result : α)
    (final : Scene P E σ) : Prop :=
  ∀ world : World P E σ, world.locked = false → world.scene = scene →
    ∃ after, work.run world = .ok (result, after) ∧ after.locked = false ∧ after.scene = final

theorem Reaches.next {α β : Type} {work : Run P E σ α} {next : α → Run P E σ β}
    {scene middle final : Scene P E σ} {value : α} {result : β}
    (first : Reaches work scene value middle) (rest : Reaches (next value) middle result final) :
    Reaches (work >>= next) scene result final := by
  intro world free same
  obtain ⟨between, ran, freed, reached⟩ := first world free same
  obtain ⟨after, finished⟩ := rest between freed reached
  exact ⟨after, by rw [run_next ran]; exact finished⟩

private theorem update_reaches (scene : Scene P E σ) (steps : List (Registration P (Procedure P E))) :
    Reaches (update steps) scene (scene.table.registerAll steps).error (scene.registered steps) := by
  rintro world free rfl
  exact ⟨_, update_free steps free, free, registered_scene world steps⟩

/-- Resolving a call takes one more snapshot for as long as the call goes on, which no scene shows. -/
theorem resolve_reaches {depth : Nat} {call : Call P E σ} {final : Scene P E σ}
    (resolves : ∀ world : World P E σ, world.locked = false → call.scene = world.scene →
      ∃ after, Resolves s (evaluate s depth) world call after ∧ after.locked = false ∧
        after.scene = final) :
    Reaches (resolve s depth call.args) call.scene call.outcome final := by
  intro world free same
  obtain ⟨after, carried, freed, reached⟩ := resolves world.withSnapshot free same.symm
  have ran := run_of_resolves s (evaluate s depth) carried same.symm
  refine ⟨after.without world.cell.snapshot.1, ?_, freed, reached⟩
  refine (resolveFor_free (hostWith s (evaluate s depth)) call.args free).trans ?_
  exact congrArg (Except.map _) ran

private theorem resolve_answered {depth : Nat} {call : Call P E σ} {searched returned : Scene P E σ}
    {event : Event} {handler : Handler (Procedure P E)} {given : List Value} {result : Value}
    (keeps : call.Keeps s searched) (ending : call.ending = [.emit event, .run handler given result])
    (handled : Reaches ((s.procedure handler given).run s (evaluate s depth)) (searched.note event)
      result returned) : Reaches (resolve s depth call.args) call.scene call.outcome returned := by
  refine resolve_reaches fun world free same => ?_
  obtain ⟨after, ran, freed, reached⟩ :=
    handled (world.staging (searched.note event)) free (keeps.staged s same event)
  exact ⟨after, .answered keeps ending ran, freed, reached⟩

private theorem resolve_unanswered (depth : Nat) {call : Call P E σ} {searched : Scene P E σ} {event : Event}
    (keeps : call.Keeps s searched) (ending : call.ending = [.emit event]) :
    Reaches (resolve s depth call.args) call.scene call.outcome (searched.note event) :=
  resolve_reaches fun _ free same =>
    ⟨_, .unanswered keeps ending, free, keeps.staged s same event⟩

/-- Evaluating a call nested in others is resolving it one level further down. -/
theorem evaluate_reaches {depth : Nat} {args : List Value} {scene final : Scene P E σ}
    {outcome : Outcome} (resolved : Reaches (resolve s depth args) scene outcome final) :
    Reaches (evaluate s (depth + 1) args) scene outcome.value? final := by
  unfold evaluate
  rw [map_eq_pure_bind]
  exact resolved.next fun world free same => ⟨world, rfl, free, same⟩

/-- What the relation tells of an action is done at some depth and at all greater ones. -/
theorem acts_reached {action : Action P E} {scene after : Scene P E σ}
    {history : List (Moment P E σ)} {value : Value} (acts : Acts s action scene history value after) :
    ∃ bound, ∀ depth, bound ≤ depth →
      Reaches (action.run s (evaluate s depth)) scene value after := by
  induction acts with
  | done => exact ⟨0, fun _ _ world free same => ⟨world, rfl, free, same⟩⟩
  | @effect e next scene after history value rest ih =>
    obtain ⟨bound, reached⟩ := ih
    refine ⟨bound, fun depth deep => ?_⟩
    refine Reaches.next (fun world free same => ?_) (reached depth deep)
    subst same
    exact ⟨_, rfl, free, rfl⟩
  | update rest ih =>
    obtain ⟨bound, reached⟩ := ih
    exact ⟨bound, fun depth deep => (update_reaches _ _).next (reached depth deep)⟩
  | answered keeps ending handled rest handledIh restIh =>
    obtain ⟨bound, handles⟩ := handledIh
    obtain ⟨bound', goesOn⟩ := restIh
    -- Whoever answers the nested call acts one level further down than who made it.
    refine ⟨max (bound + 1) bound', fun depth deep => ?_⟩
    obtain ⟨below, rfl⟩ : ∃ below, depth = below + 1 := ⟨depth - 1, by omega⟩
    have resolved := resolve_answered keeps ending (handles below (by omega))
    exact (evaluate_reaches resolved).next (goesOn (below + 1) (by omega))
  | unanswered keeps ending rest ih =>
    obtain ⟨bound, goesOn⟩ := ih
    refine ⟨max 1 bound, fun depth deep => ?_⟩
    obtain ⟨below, rfl⟩ : ∃ below, depth = below + 1 := ⟨depth - 1, by omega⟩
    have resolved := resolve_unanswered below keeps ending
    exact (evaluate_reaches resolved).next (goesOn (below + 1) (by omega))

private theorem called_reached {call : Call P E σ} {inner : List (Moment P E σ)} {final : Scene P E σ}
    (called : Called s call inner final) :
    ∃ bound, ∀ depth, bound ≤ depth →
      Reaches (resolve s depth call.args) call.scene call.outcome final := by
  cases called with
  | answered keeps ending handled =>
    obtain ⟨bound, handles⟩ := acts_reached handled
    exact ⟨bound, fun depth deep => resolve_answered keeps ending (handles depth deep)⟩
  | unanswered keeps ending => exact ⟨0, fun depth _ => resolve_unanswered depth keeps ending⟩

/-! ### Every call and the table of its snapshot -/

/-- Calls on a shared table may be nested to any depth and extend the table without ever meeting its
lock. Each is settled by the table of its own snapshot, which has all updates that came before and none
that came later. -/
theorem nested_calls_keep_their_tables (s : Surroundings P E σ) (cell : Cell (SharedTable P E))
    (host : σ) (log : List Event) (args : List Value) :
    let world : World P E σ := ⟨cell, false, host, log⟩
    (∀ depth, (guardedResolve s depth args).run world = (resolve s depth args).run world ∧
      ∀ halt, (resolve s depth args).run world = .error halt → halt = .tooDeep) ∧
    (∀ depth outcome after, (resolve s depth args).run world = .ok (outcome, after) →
      world.Kept after ∧ ∃ call inner, call.scene = world.scene ∧ call.args = args ∧
        call.outcome = outcome ∧ Called s call inner after.scene ∧
        let history := .call call :: inner
        (∀ before other rest, history = before ++ .call other :: rest →
          other.SettledBy s (cell.content.updated (updatesIn before)) ∧
          other.scene.table.bindings =
            cell.content.bindings ++ (updatesIn before).flatMap Table.chainBindings) ∧
        after.cell.content = cell.content.updated (updatesIn history) ∧
        after.cell.content.bindings =
          cell.content.bindings ++ (updatesIn history).flatMap Table.chainBindings) ∧
    (∀ call inner final, Called s call inner final → call.scene = world.scene → call.args = args →
      ∃ bound, ∀ depth, bound ≤ depth → ∃ after,
        (resolve s depth args).run world = .ok (call.outcome, after) ∧ after.scene = final) := by
  intro world
  refine ⟨fun depth => ?_, fun depth outcome after ran => ?_, fun call inner final called same asked => ?_⟩
  · obtain ⟨same, ends⟩ := guardedResolve_alike s depth args world rfl
    refine ⟨same, fun halt stopped => ?_⟩
    rw [stopped] at ends
    exact ends
  · have kept : world.Kept after := kept_of_alike (guardedResolve_alike s depth args) ran rfl
    obtain ⟨call, inner, same, asked, ended, called⟩ := called_of_run (evaluate_told depth) rfl ran
    -- The history leads from the table that the outermost call found to the one that is left.
    have leads := called.leads
    rw [show call.scene.table = cell.content from congrArg Scene.table same] at leads
    refine ⟨kept, call, inner, same, asked, ended, called, fun before other rest split => ?_,
      leads.leaves, ?_⟩
    · rw [split] at leads
      have settled := leads.at_call
      refine ⟨settled, ?_⟩
      rw [settled.taken, Table.updated_bindings]
    · rw [← Table.updated_bindings, ← leads.leaves]
      rfl
  · obtain ⟨bound, reached⟩ := called_reached called
    refine ⟨bound, fun depth deep => ?_⟩
    obtain ⟨after, ran, -, left⟩ := reached depth deep world rfl same.symm
    rw [asked] at ran
    exact ⟨after, ran, left⟩

/-- A handler may register a binding and have it answer a call at once; the call that the handler
answers stays with the binding that was found for it. -/
example :
    let yes : Registration Empty (Procedure Empty Empty) :=
      .rule (.ok ⟨[.wildcard, .wildcard]⟩) fun _ => .done (.bool true)
    let growing : Procedure Empty Empty := fun _ =>
      .update [yes] fun _ => .evaluate [.bool true, .bool true] fun answer =>
        .done (answer.getD .null)
    let table : SharedTable Empty Empty := { bindings := [⟨⟨[.wildcard]⟩, .native growing⟩] }
    let s : Surroundings Empty Empty Unit := ⟨nofun, nofun, fun _ _ => .done .null⟩
    ((resolve s 2 [.null]).run (World.new table ())).map (fun (outcome, after) =>
      (outcome, after.cell.content.length)) = .ok (.matched 0 (.bool true), 2) := by
  rfl

end Multimethod.Shared
