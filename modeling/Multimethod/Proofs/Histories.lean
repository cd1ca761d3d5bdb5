import Multimethod.Proofs.Growth
import Multimethod.Shared.Action

/-!
Calls nested in calls, without locks, cells, snapshots and a bound on the depth: `Acts` relates an
action to the scene that it finds, the history of calls and updates that it makes, and the scene that
it leaves. What holds of histories is shown by induction on this relation: `Acts.leads`, by which each
call of a history is settled by the first table after the updates that come before the call.
-/
namespace Multimethod.Shared

variable {P E σ : Type}

/-- What a call on a shared table finds, and leaves: the table as of now, the state of the host, and
the events so far. -/
structure Scene (P E σ : Type) where
  table : SharedTable P E
  host : σ
  log : List Event

def World.scene (world : World P E σ) : Scene P E σ :=
  ⟨world.cell.content, world.host, world.log⟩

namespace Surroundings

/-- The host of a search. No handler runs in a search. -/
def searching (s : Surroundings P E σ) : Host P (Procedure P E) (StateM (σ × List Event)) where
  test p value := fun (host, log) =>
    let (answer, host) := (s.test p value).run host
    (answer, host, log)
  run _ _ := pure .null
  call _ _ := pure .null
  emit event := fun (host, log) => (⟨⟩, host, log ++ [event])

def procedure (s : Surroundings P E σ) : Handler (Procedure P E) → Procedure P E
  | .native body => body
  | .function f => s.body f

end Surroundings

namespace Scene

def note (scene : Scene P E σ) (event : Event) : Scene P E σ :=
  { scene with log := scene.log ++ [event] }

def registered (scene : Scene P E σ) (steps : List (Registration P (Procedure P E))) :
    Scene P E σ :=
  { scene with
    table := (scene.table.registerAll steps).table
    log := scene.log ++ (scene.table.registerAll steps).events }

def search (s : Surroundings P E σ) (scene : Scene P E σ) (args : List Value) :
    Option (Nat × Binding P (Procedure P E)) × Scene P E σ :=
  let (found, host, log) := (scene.table.firstAccepting s.searching args).run (scene.host, scene.log)
  (found, { scene with host, log })

end Scene

/-- A call as it went. -/
structure Call (P E σ : Type) where
  -- The scene when the call took its snapshot, and what was reported and run once the search was over.
  scene : Scene P E σ
  args : List Value
  found : Option (Nat × Binding P (Procedure P E))
  outcome : Outcome
  ending : List (Request P (Procedure P E))

/-- A call keeps to the table that it took a snapshot of: it comes to what was found there, and to
what follows from that there. `searched` is the scene when the search is over. -/
structure Call.Keeps (s : Surroundings P E σ) (call : Call P E σ) (searched : Scene P E σ) : Prop where
  search : call.scene.search s call.args = (call.found, searched)
  ends : call.scene.table.Ends call.args call.found call.outcome call.ending

/-- What happens to a shared table: a call takes its snapshot, or an update is made. -/
inductive Moment (P E σ : Type) where
  | call (call : Call P E σ)
  | update (steps : List (Registration P (Procedure P E)))

/-- In this scene, this action makes this history, returns this value and leaves this scene. -/
inductive Acts (s : Surroundings P E σ) :
    Action P E → Scene P E σ → List (Moment P E σ) → Value → Scene P E σ → Prop where
  | done {value : Value} {scene : Scene P E σ} : Acts s (.done value) scene [] value scene
  | effect {e : E} {next : Value → Action P E} {scene after : Scene P E σ}
      {history : List (Moment P E σ)} {value : Value}
      (rest : Acts s (next ((s.perform e).run scene.host).1)
        { scene with host := ((s.perform e).run scene.host).2 } history value after) :
      Acts s (.effect e next) scene history value after
  | update {steps : List (Registration P (Procedure P E))} {next : Option Error → Action P E}
      {scene after : Scene P E σ} {history : List (Moment P E σ)} {value : Value}
      (rest : Acts s (next (scene.table.registerAll steps).error) (scene.registered steps) history
        value after) :
      Acts s (.update steps next) scene (.update steps :: history) value after
  -- Whoever answers the call acts in the scene that the search left, and may change the table there;
  -- the call itself is settled by then.
  | answered {call : Call P E σ} {searched returned after : Scene P E σ} {event : Event}
      {handler : Handler (Procedure P E)} {given : List Value} {result value : Value}
      {next : Option Value → Action P E} {inner later : List (Moment P E σ)}
      (keeps : call.Keeps s searched)
      (ending : call.ending = [.emit event, .run handler given result])
      (handled : Acts s (s.procedure handler given) (searched.note event) inner result returned)
      (rest : Acts s (next call.outcome.value?) returned later value after) :
      Acts s (.evaluate call.args next) call.scene (.call call :: (inner ++ later)) value after
  | unanswered {call : Call P E σ} {searched after : Scene P E σ} {event : Event} {value : Value}
      {next : Option Value → Action P E} {later : List (Moment P E σ)}
      (keeps : call.Keeps s searched) (ending : call.ending = [.emit event])
      (rest : Acts s (next call.outcome.value?) (searched.note event) later value after) :
      Acts s (.evaluate call.args next) call.scene (.call call :: later) value after

/-- This call makes this history on the way and leaves this scene. -/
inductive Called (s : Surroundings P E σ) (call : Call P E σ) :
    List (Moment P E σ) → Scene P E σ → Prop where
  | answered {searched returned : Scene P E σ} {event : Event} {handler : Handler (Procedure P E)}
      {given : List Value} {result : Value} {inner : List (Moment P E σ)}
      (keeps : call.Keeps s searched)
      (ending : call.ending = [.emit event, .run handler given result])
      (handled : Acts s (s.procedure handler given) (searched.note event) inner result returned) :
      Called s call inner returned
  | unanswered {searched : Scene P E σ} {event : Event} (keeps : call.Keeps s searched)
      (ending : call.ending = [.emit event]) : Called s call [] (searched.note event)

theorem Acts.evaluate {s : Surroundings P E σ} {call : Call P E σ} {returned after : Scene P E σ}
    {inner later : List (Moment P E σ)} {next : Option Value → Action P E} {value : Value}
    (called : Called s call inner returned)
    (rest : Acts s (next call.outcome.value?) returned later value after) :
    Acts s (.evaluate call.args next) call.scene (.call call :: (inner ++ later)) value after := by
  cases called with
  | answered keeps ending handled => exact .answered keeps ending handled rest
  | unanswered keeps ending => exact .unanswered keeps ending rest

/-! ### What histories say -/

def updatesIn (history : List (Moment P E σ)) : List (List (Registration P (Procedure P E))) :=
  history.filterMap fun
    | .call _ => none
    | .update steps => some steps

/-- The history begins with this table, and each call in it keeps to the table as it is then. -/
def Follows (s : Surroundings P E σ) : SharedTable P E → List (Moment P E σ) → Prop
  | _, [] => True
  | table, .call call :: rest =>
    call.scene.table = table ∧ (∃ searched, call.Keeps s searched) ∧ Follows s table rest
  | table, .update steps :: rest => Follows s (table.registerAll steps).table rest

private theorem updatesIn_append (before after : List (Moment P E σ)) :
    updatesIn (before ++ after) = updatesIn before ++ updatesIn after :=
  List.filterMap_append

private theorem follows_append (s : Surroundings P E σ) (table : SharedTable P E)
    (before after : List (Moment P E σ)) :
    Follows s table (before ++ after) ↔
      Follows s table before ∧ Follows s (table.updated (updatesIn before)) after := by
  induction before generalizing table with
  | nil => exact ⟨fun follows => ⟨trivial, follows⟩, And.right⟩
  | cons moment rest ih =>
    cases moment with
    | call call =>
      simp only [List.cons_append, Follows, ih, and_assoc]
      rfl
    | update steps => exact ih _

/-- A history leads from one table to another. -/
structure Leads (s : Surroundings P E σ) (table : SharedTable P E) (history : List (Moment P E σ))
    (final : SharedTable P E) : Prop where
  follows : Follows s table history
  leaves : final = table.updated (updatesIn history)

theorem Leads.append {s : Surroundings P E σ} {table middle final : SharedTable P E}
    {before after : List (Moment P E σ)} (first : Leads s table before middle)
    (second : Leads s middle after final) : Leads s table (before ++ after) final where
  follows := (follows_append s table before after).mpr
    ⟨first.follows, first.leaves ▸ second.follows⟩
  leaves := by rw [updatesIn_append, Table.updated_append, ← first.leaves, second.leaves]

/-- No search changes the table. -/
theorem Call.Keeps.table {s : Surroundings P E σ} {call : Call P E σ} {searched : Scene P E σ}
    (keeps : call.Keeps s searched) : searched.table = call.scene.table :=
  congrArg (fun result => result.2.table) keeps.search.symm

/-- A call adds itself to the history of what answers it. -/
theorem Leads.call {s : Surroundings P E σ} {call : Call P E σ} {searched : Scene P E σ}
    {final : SharedTable P E} {history : List (Moment P E σ)} (keeps : call.Keeps s searched)
    (leads : Leads s searched.table history final) :
    Leads s call.scene.table (.call call :: history) final := by
  rw [keeps.table] at leads
  exact ⟨⟨rfl, ⟨searched, keeps⟩, leads.follows⟩, leads.leaves⟩

/-- What an action does leads from the table that it finds to the table that it leaves. -/
theorem Acts.leads {s : Surroundings P E σ} {action : Action P E} {scene after : Scene P E σ}
    {history : List (Moment P E σ)} {value : Value} (acts : Acts s action scene history value after) :
    Leads s scene.table history after.table := by
  induction acts with
  | done => exact ⟨trivial, rfl⟩
  | effect rest ih => exact ih
  | update rest ih => exact ⟨ih.follows, ih.leaves⟩
  | answered keeps ending handled rest handles leads => exact .call keeps (handles.append leads)
  | unanswered keeps ending rest leads => exact .call keeps leads

theorem Called.leads {s : Surroundings P E σ} {call : Call P E σ} {returned : Scene P E σ}
    {inner : List (Moment P E σ)} (called : Called s call inner returned) :
    Leads s call.scene.table (.call call :: inner) returned.table := by
  cases called with
  | answered keeps ending handled => exact .call keeps handled.leads
  | unanswered keeps ending => exact .call keeps ⟨trivial, rfl⟩

/-- A call was settled by this table: the table was the shared one when the call took its snapshot,
the call was searched for and ended as the table says, with the index of the binding that was found,
and where predicates have no effects that binding is the first one of the table that admits it. -/
structure Call.SettledBy (s : Surroundings P E σ) (call : Call P E σ) (table : SharedTable P E) :
    Prop where
  taken : call.scene.table = table
  keeps : ∃ searched, call.Keeps s searched
  index : call.outcome.index? = call.found.map Prod.fst
  first : ∀ answer : P → Value → Bool, (∀ p value, s.test p value = pure (answer p value)) →
    table.Finds answer call.args call.found

/-- Where predicates have no effects, a search finds the first binding that admits the call. -/
theorem Scene.search_finds {s : Surroundings P E σ} {answer : P → Value → Bool}
    (tests : ∀ p value, s.test p value = pure (answer p value)) (scene : Scene P E σ)
    (args : List Value) : scene.table.Finds answer args (scene.search s args).1 := by
  have answers : s.searching = s.searching.withAnswers answer := by
    simp only [Surroundings.searching, Host.withAnswers, tests]
    rfl
  have search : (scene.search s args).1 =
      (scene.table.firstAccepting (Host.silent answer) args).run := by
    rw [Scene.search, answers]
    exact Table.search_without_effects s.searching answer scene.table args (scene.host, scene.log)
  rw [search]
  exact Table.firstAccepting_finds answer scene.table args

theorem Call.Keeps.settled {s : Surroundings P E σ} {call : Call P E σ} {searched : Scene P E σ}
    (keeps : call.Keeps s searched) : call.SettledBy s call.scene.table where
  taken := rfl
  keeps := ⟨searched, keeps⟩
  index := keeps.ends.index
  first answer tests := by
    have finds := Scene.search_finds tests call.scene call.args
    rw [keeps.search] at finds
    exact finds

/-- Each call of a history is settled by the first table after the updates that come before it. -/
theorem Leads.at_call {s : Surroundings P E σ} {table final : SharedTable P E} {call : Call P E σ}
    {before rest : List (Moment P E σ)} (leads : Leads s table (before ++ .call call :: rest) final) :
    call.SettledBy s (table.updated (updatesIn before)) := by
  obtain ⟨-, same, ⟨searched, keeps⟩, -⟩ := (follows_append s table before _).mp leads.follows
  exact same ▸ keeps.settled

end Multimethod.Shared
