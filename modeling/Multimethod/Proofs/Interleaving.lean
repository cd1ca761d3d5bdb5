import Mathlib.Data.List.Perm.Basic
import Multimethod.Proofs.Growth
import Multimethod.Shared.Cell

/-!
Several clients of one shared table, whose commands come in any order. A snapshot reads the table
that was current when it was taken for as long as it is kept, and at every moment the current table
is the first one after the updates that are over, each of them whole: `step_sound` for one command,
`run_sound` for any number. What this means for the clients is `snapshots_stay_whole`.
-/
namespace Multimethod.Shared

variable {P H σ C : Type}

/-- What a client does with a shared table. Each command is one step, and between two commands of a
client any number of commands of others may come. To resolve a call on the shared table a client
takes a snapshot, asks it, and drops it. -/
inductive Command (P H : Type) where
  | take
  /-- Resolves a call on a snapshot that is kept: searches it and runs the handler. -/
  | ask (place : Nat) (args : List Value)
  | drop (place : Nat)
  /-- Takes registration steps on the shared table, up to the first that is refused, under the lock. -/
  | update (steps : List (Registration P H))

/-- A snapshot, with the table that was current when it was taken. No command looks at that table. -/
structure Ticket (P H : Type) where
  snapshot : Snapshot
  seen : Table P H

/-- A shared table between its clients `C`, and a record of what they have done. -/
structure System (P H σ C : Type) where
  cell : Cell (Table P H)
  host : σ
  kept : List (Ticket P H)
  /-- The updates that are over, in the order in which the clients held the lock. -/
  updates : List (C × List (Registration P H))
  outcomes : List (C × Outcome)

namespace System

def start (table : Table P H) (host : σ) : System P H σ C :=
  ⟨.new table, host, [], [], []⟩

def ticket (system : System P H σ C) : Ticket P H :=
  ⟨system.cell.snapshot.1, system.cell.content⟩

def take (system : System P H σ C) : System P H σ C :=
  { system with cell := system.cell.snapshot.2, kept := system.kept ++ [system.ticket] }

def ask (host : Host P H (StateM σ)) (system : System P H σ C) (client : C) (ticket : Ticket P H)
    (args : List Value) : System P H σ C :=
  let table := (system.cell.read? ticket.snapshot).getD default
  let (outcome, host) := (table.resolve host args).run system.host
  { system with host, outcomes := system.outcomes ++ [(client, outcome)] }

def drop (system : System P H σ C) (place : Nat) (ticket : Ticket P H) : System P H σ C :=
  { system with
    cell := system.cell.release ticket.snapshot
    kept := system.kept.eraseIdx place }

/-- Changes the shared table by a chain of registration steps, and reports them. -/
def update (host : Host P H (StateM σ)) (system : System P H σ C) (client : C)
    (steps : List (Registration P H)) : System P H σ C :=
  let ((events, _), cell) := system.cell.update (Table.registering steps)
  { system with
    cell
    host := ((events.forM host.emit).run system.host).2
    updates := system.updates ++ [(client, steps)] }

/-- Carries out a command of a client. At a place where no snapshot is kept there is nothing to do. -/
def step (host : Host P H (StateM σ)) (system : System P H σ C) (client : C) :
    Command P H → System P H σ C
  | .take => system.take
  | .ask place args => (system.kept[place]?).elim system fun ticket =>
      system.ask host client ticket args
  | .drop place => (system.kept[place]?).elim system (system.drop place)
  | .update steps => system.update host client steps

/-- Carries out commands of all clients in the order in which they come. -/
def run (host : Host P H (StateM σ)) (system : System P H σ C) :
    List (C × Command P H) → System P H σ C
  | [] => system
  | (client, command) :: rest => (system.step host client command).run host rest

private theorem update_cell (host : Host P H (StateM σ)) (system : System P H σ C) (client : C)
    (steps : List (Registration P H)) : (system.update host client steps).cell =
      (system.cell.update (Table.registering steps)).2 := rfl

private theorem update_updates (host : Host P H (StateM σ)) (system : System P H σ C) (client : C)
    (steps : List (Registration P H)) : (system.update host client steps).updates =
      system.updates ++ [(client, steps)] := rfl

/-! ### What holds at every moment -/

def tableAfter (initial : Table P H) (system : System P H σ C) (count : Nat) : Table P H :=
  initial.updated ((system.updates.take count).map Prod.snd)

structure Sound (initial : Table P H) (system : System P H σ C) : Prop where
  -- The cell counts the snapshots that are kept, so an update knows when to copy.
  held : system.cell.held.Perm (system.kept.map fun ticket => ticket.snapshot.slot)
  reads : ∀ ticket ∈ system.kept, system.cell.read? ticket.snapshot = some ticket.seen
  whole : ∀ ticket ∈ system.kept, ∃ count ≤ system.updates.length,
    ticket.seen = system.tableAfter initial count
  current : system.cell.content = system.tableAfter initial system.updates.length

theorem Sound.content {initial : Table P H} {system : System P H σ C}
    (sound : system.Sound initial) :
    system.cell.content = initial.updated (system.updates.map Prod.snd) := by
  rw [sound.current, tableAfter, List.take_length]

private theorem start_sound (table : Table P H) (host : σ) :
    (start table host : System P H σ C).Sound table where
  held := .nil
  reads _ kept := absurd kept List.not_mem_nil
  whole _ kept := absurd kept List.not_mem_nil
  current := rfl

variable {initial : Table P H} {system : System P H σ C}

private theorem take_sound (sound : system.Sound initial) : system.take.Sound initial where
  held := by
    refine (sound.held.cons system.cell.current).trans ?_
    rw [show system.take.kept = system.kept ++ [system.ticket] from rfl, List.map_append]
    exact (List.perm_append_singleton _ _).symm
  reads ticket kept := by
    rcases List.mem_append.mp kept with old | new
    · exact sound.reads ticket old
    · rw [List.mem_singleton.mp new]
      exact system.cell.read?_snapshot
  whole ticket kept := by
    rcases List.mem_append.mp kept with old | new
    · exact sound.whole ticket old
    · rw [List.mem_singleton.mp new]
      exact ⟨_, Nat.le_refl _, sound.current⟩
  current := sound.current

private theorem ask_sound (sound : system.Sound initial) (host : Host P H (StateM σ)) (client : C)
    (ticket : Ticket P H) (args : List Value) :
    (system.ask host client ticket args).Sound initial :=
  ⟨sound.held, sound.reads, sound.whole, sound.current⟩

private theorem drop_sound (sound : system.Sound initial) {place : Nat} {ticket : Ticket P H}
    (standing : system.kept[place]? = some ticket) : (system.drop place ticket).Sound initial := by
  obtain ⟨within, same⟩ := List.getElem?_eq_some_iff.mp standing
  have others : ∀ other ∈ system.kept.eraseIdx place, other ∈ system.kept :=
    fun other => List.mem_of_mem_eraseIdx
  refine ⟨?_, fun other kept => sound.reads other (others other kept),
    fun other kept => sound.whole other (others other kept), sound.current⟩
  have apart : (system.kept.map fun ticket => ticket.snapshot.slot).Perm
      (ticket.snapshot.slot :: (system.kept.eraseIdx place).map fun ticket => ticket.snapshot.slot) := by
    rw [← same]
    exact ((List.getElem_cons_eraseIdx_perm within).map _).symm
  have counted : ticket.snapshot.slot ∈ system.cell.held :=
    (sound.held.trans apart).mem_iff.mpr List.mem_cons_self
  exact ((List.perm_cons_erase counted).symm.trans (sound.held.trans apart)).cons_inv

private theorem tableAfter_update (host : Host P H (StateM σ)) (client : C)
    (steps : List (Registration P H)) {count : Nat} (past : count ≤ system.updates.length) :
    (system.update host client steps).tableAfter initial count = system.tableAfter initial count := by
  rw [tableAfter, update_updates, List.take_append_of_le_length past]
  rfl

private theorem update_sound (sound : system.Sound initial) (host : Host P H (StateM σ)) (client : C)
    (steps : List (Registration P H)) : (system.update host client steps).Sound initial where
  held := by
    rw [update_cell, Cell.held_update]
    exact sound.held
  reads ticket kept := by
    have counted : ticket.snapshot.slot ∈ system.cell.held :=
      sound.held.mem_iff.mpr (List.mem_map_of_mem kept)
    rw [update_cell, Cell.read?_update _ _ _ counted]
    exact sound.reads ticket kept
  whole ticket kept := by
    obtain ⟨count, past, same⟩ := sound.whole ticket kept
    refine ⟨count, ?_, same.trans (tableAfter_update host client steps past).symm⟩
    rw [update_updates, List.length_append]
    exact Nat.le_add_right_of_le past
  current := by
    rw [update_cell, Cell.content_update, tableAfter, List.take_length, update_updates,
      List.map_append, Table.updated_append, ← sound.content]
    rfl

/-- Every command keeps a system sound. -/
theorem step_sound (sound : system.Sound initial) (host : Host P H (StateM σ)) (client : C)
    (command : Command P H) : (system.step host client command).Sound initial := by
  cases command with
  | take => exact take_sound sound
  | ask place args =>
    simp only [step]
    cases system.kept[place]? with
    | none => exact sound
    | some ticket => exact ask_sound sound host client ticket args
  | drop place =>
    simp only [step]
    cases standing : system.kept[place]? with
    | none => exact sound
    | some ticket => exact drop_sound sound standing
  | update steps => exact update_sound sound host client steps

/-- Whatever clients do, in whatever order, a system stays sound. -/
theorem run_sound (sound : system.Sound initial) (host : Host P H (StateM σ))
    (schedule : List (C × Command P H)) : (system.run host schedule).Sound initial := by
  induction schedule generalizing system with
  | nil => exact sound
  | cons first rest ih => exact ih (step_sound sound host first.1 first.2)

end System

/-! ### What each client contributes -/

/-- The update that a command is, if it is one. -/
def update? : C × Command P H → Option (C × List (Registration P H))
  | (client, .update steps) => some (client, steps)
  | _ => none

/-- The bindings that updates add, each with the client from whom it comes. -/
def contributions (updates : List (C × List (Registration P H))) : List (C × Binding P H) :=
  updates.flatMap fun (client, steps) => (Table.chainBindings steps).map fun binding => (client, binding)

/-- The commands of one client, in the order in which it gives them. -/
def commandsOf [DecidableEq C] (client : C) (schedule : List (C × Command P H)) :
    List (Command P H) :=
  (schedule.filter fun entry => entry.1 = client).map Prod.snd

def Command.bindings : Command P H → List (Binding P H)
  | .update steps => Table.chainBindings steps
  | _ => []

private theorem System.step_updates (host : Host P H (StateM σ)) (system : System P H σ C) (client : C)
    (command : Command P H) : (system.step host client command).updates =
      system.updates ++ (update? (client, command)).toList := by
  cases command with
  | take => exact (List.append_nil _).symm
  | ask place args =>
    simp only [step]
    cases system.kept[place]? <;> exact (List.append_nil _).symm
  | drop place =>
    simp only [step]
    cases system.kept[place]? <;> exact (List.append_nil _).symm
  | update steps => rfl

/-- Updates are over in the order in which they come. -/
theorem System.run_updates (host : Host P H (StateM σ)) (system : System P H σ C)
    (schedule : List (C × Command P H)) :
    (system.run host schedule).updates = system.updates ++ schedule.filterMap update? := by
  induction schedule generalizing system with
  | nil => exact (List.append_nil _).symm
  | cons first rest ih =>
    rw [run, ih, step_updates, List.append_assoc, List.filterMap_cons]
    cases update? first <;> rfl

/-- Whatever comes next, the shared table only grows. -/
theorem System.run_extends {initial : Table P H} {system : System P H σ C}
    (sound : system.Sound initial) (host : Host P H (StateM σ))
    (schedule : List (C × Command P H)) :
    (system.run host schedule).cell.content.Extends system.cell.content := by
  rw [(run_sound sound host schedule).content, run_updates, List.map_append, Table.updated_append,
    ← sound.content]
  exact Table.updated_extends _ _

/-- Resolving a call on a snapshot that is kept is resolving it on the table that was current when
the snapshot was taken. -/
theorem System.ask_kept {initial : Table P H} {system : System P H σ C}
    (sound : system.Sound initial) (host : Host P H (StateM σ)) (client : C) {ticket : Ticket P H}
    (kept : ticket ∈ system.kept) (args : List Value) :
    system.ask host client ticket args = { system with
      host := ((ticket.seen.resolve host args).run system.host).2
      outcomes := system.outcomes ++
        [(client, ((ticket.seen.resolve host args).run system.host).1)] } := by
  simp only [ask, sound.reads ticket kept, Option.getD_some]
  rfl

private theorem contributions_bindings (updates : List (C × List (Registration P H))) :
    (contributions updates).map Prod.snd = (updates.map Prod.snd).flatMap Table.chainBindings := by
  simp only [contributions, List.map_flatMap, List.map_map, List.flatMap_map, Function.comp_def,
    List.map_id']

private theorem contributions_cons (client : C) (command : Command P H) (rest : List (C × Command P H)) :
    contributions (((client, command) :: rest).filterMap update?) =
      (command.bindings.map fun binding => (client, binding)) ++
        contributions (rest.filterMap update?) := by
  cases command <;> rfl

/-- What a client contributes are the bindings of its own commands, in its own order. -/
theorem contributions_of_client [DecidableEq C] (client : C) (schedule : List (C × Command P H)) :
    ((contributions (schedule.filterMap update?)).filter fun entry => entry.1 = client).map Prod.snd =
      (commandsOf client schedule).flatMap Command.bindings := by
  induction schedule with
  | nil => rfl
  | cons first rest ih =>
    obtain ⟨other, command⟩ := first
    rw [contributions_cons, List.filter_append, List.map_append, ih, List.filter_map, commandsOf]
    by_cases same : other = client
    · simp [same, Function.comp_def, commandsOf]
    · simp [same, Function.comp_def, commandsOf]

/-- However the commands of clients are interleaved, a snapshot reads one whole state of the table for
as long as it is kept. The present table is the first one after all updates in the order of the lock,
and none is lost. -/
theorem snapshots_stay_whole [DecidableEq C] (host : Host P H (StateM σ)) (initial : Table P H)
    (state : σ) (schedule : List (C × Command P H)) :
    let system := (System.start initial state).run host schedule
    (∀ rest, let later := system.take.run host rest
      system.ticket ∈ later.kept →
        later.cell.read? system.ticket.snapshot = some system.cell.content) ∧
    (∀ ticket ∈ system.kept, system.cell.read? ticket.snapshot = some ticket.seen ∧
      ∃ count ≤ system.updates.length,
        ticket.seen = initial.updated ((system.updates.take count).map Prod.snd)) ∧
    (∀ (place : Nat) (ticket : Ticket P H) (client : C) (args : List Value),
      system.kept[place]? = some ticket →
        let resolved := (ticket.seen.resolve host args).run system.host
        system.step host client (.ask place args) = { system with
          host := resolved.2, outcomes := system.outcomes ++ [(client, resolved.1)] } ∧
        (ticket.seen.evaluate host args).run system.host = (resolved.1.value?, resolved.2)) ∧
    system.updates = schedule.filterMap update? ∧
    system.cell.content = initial.updated (system.updates.map Prod.snd) ∧
    system.cell.content.bindings =
      initial.bindings ++ (contributions system.updates).map Prod.snd ∧
    (∀ client, ((contributions system.updates).filter fun entry => entry.1 = client).map Prod.snd =
      (commandsOf client schedule).flatMap Command.bindings) ∧
    (∀ rest, (system.run host rest).cell.content.Extends system.cell.content) := by
  intro system
  have sound : system.Sound initial :=
    System.run_sound (System.start_sound initial state) host schedule
  have recorded : system.updates = schedule.filterMap update? := System.run_updates host _ schedule
  refine ⟨fun rest kept => ?_, fun ticket kept => ⟨sound.reads ticket kept, sound.whole ticket kept⟩,
    fun place ticket client args standing => ⟨?_, rfl⟩, recorded, sound.content, ?_, fun client => ?_,
    System.run_extends sound host⟩
  · exact (System.run_sound (System.take_sound sound) host rest).reads system.ticket kept
  · rw [System.step, standing]
    exact System.ask_kept sound host client (List.mem_of_getElem? standing) args
  · rw [sound.content, Table.updated_bindings, contributions_bindings]
  · rw [recorded, contributions_of_client]

end Multimethod.Shared
