import Multimethod.Proofs.TrailingNulls

/-!
What a table reports while it resolves a call. Reports go to a journal that predicates and handlers
cannot read, so a table that is configured otherwise takes a call in the same way: `configured_alike`.
The reports themselves are fixed by the binding that is found: one for each binding before it, where the
table reports those, and one for what happens next, ahead of all that the handler reports
(`search_reports`, `resolve_journal`).
-/
namespace Multimethod

variable {P H σ α : Type}

namespace Request

def event? : Request P H → Option Event
  | .emit event => some event
  | _ => none

/-- The events among requests. -/
def events (requests : List (Request P H)) : List Event :=
  requests.filterMap event?

/-- The runs of predicates, handlers and fallbacks among requests. -/
def calls (requests : List (Request P H)) : List (Request P H) :=
  requests.filter fun request => request.event?.isNone

@[simp] theorem events_append (before after : List (Request P H)) :
    events (before ++ after) = events before ++ events after :=
  List.filterMap_append

@[simp] theorem calls_append (before after : List (Request P H)) :
    calls (before ++ after) = calls before ++ calls after :=
  List.filter_append ..

end Request

/-! ### Journals -/

/-- A state, and the events that were reported so far. -/
structure Journal (σ : Type) where
  state : σ
  events : List Event

/-- Work on a state: its result, the state after it and the events that it reports. What was reported
before, the work cannot know. -/
abbrev Reporting (σ α : Type) := σ → α × σ × List Event

/-- Does the work and writes its events behind those that are there. -/
def Reporting.noted (work : Reporting σ α) : StateM (Journal σ) α := fun journal =>
  let (result, state, events) := work journal.state
  (result, ⟨state, journal.events ++ events⟩)

/-- Predicates and handlers with any effects, which may report events of their own: a handler may
resolve further calls, on this table or on others. -/
structure Staff (P H σ : Type) where
  test : P → Value → Reporting σ Bool
  run : Handler H → List Value → Reporting σ Value

/-- The host that keeps a journal of all that is reported. -/
def Staff.host (staff : Staff P H σ) : Host P H (StateM (Journal σ)) where
  test p value := (staff.test p value).noted
  run body args := (staff.run (.native body) args).noted
  call function args := (staff.run (.function function) args).noted
  emit event := Reporting.noted fun state => ((), state, [event])

private theorem Staff.run_noted (staff : Staff P H σ) (handler : Handler H) (args : List Value) :
    handler.run staff.host args = (staff.run handler args).noted := by
  cases handler <;> rfl

/-- Work that is made of parts which cannot know what was reported before cannot know it either. -/
def noting (σ : Type) : Simulation (StateM (Journal σ)) (StateM (Journal σ)) where
  rel x _ := ∃ work : Reporting σ _, x = work.noted
  pure a := ⟨fun state => (a, state, []), by
    funext journal
    change (a, journal) = (a, ⟨journal.state, journal.events ++ []⟩)
    rw [List.append_nil]⟩
  bind := by
    rintro α β _ y f g ⟨first, rfl⟩ rest
    choose others same using rest
    refine ⟨fun state =>
      let (middle, between, events) := first state
      let (result, after, later) := others middle between
      (result, after, events ++ later), ?_⟩
    funext journal
    simp only [same, bind, StateT.bind, Reporting.noted, List.append_assoc]

/-- Resolving a call is itself such work, so a handler may resolve calls. -/
theorem resolve_noted (staff : Staff P H σ) (table : Table P H) (args : List Value) :
    ∃ work : Reporting σ Outcome, table.resolve staff.host args = work.noted :=
  have tests p value : (noting σ).rel (staff.host.test p value) (staff.host.test p value) :=
    ⟨staff.test p value, rfl⟩
  have emits event : (noting σ).rel (staff.host.emit event) (staff.host.emit event) :=
    ⟨fun state => ((), state, [event]), rfl⟩
  have runs (handler : Handler H) args :
      (noting σ).rel (handler.run staff.host args) (handler.run staff.host args) :=
    ⟨staff.run handler args, staff.run_noted handler args⟩
  (noting σ).resolve_alike tests emits runs table args

/-! ### Two configurations -/

section

variable {m : Type → Type} [Monad m] [LawfulMonad m]

/-- Without reports a search goes the same way however the table is configured. -/
theorem Table.firstFrom_configured (host : Host P H m) (config other : Config) (args : List Value)
    (index : Nat) (bindings : List (Binding P H)) :
    firstFrom host.unlogged config args index bindings =
      firstFrom host.unlogged other args index bindings := by
  induction bindings generalizing index with
  | nil => simp only [firstFrom]
  | cons binding rest ih =>
    simp only [firstFrom, Host.unlogged_emit, ih]
    congr 1
    funext accepted
    cases config.traceRejections <;> cases other.traceRejections <;> simp

private theorem Table.resolve_configured (host : Host P H m) (table : Table P H) (config : Config)
    (args : List Value) :
    Table.resolve host.unlogged { table with config } args = table.resolve host.unlogged args := by
  simp only [resolve, firstAccepting, Host.unlogged_emit,
    firstFrom_configured host config table.config]

end

/-- Two watched computations do the same to the state and ask for the same runs; the one may report
what the other does not. -/
def apartFromReports (P H σ : Type) :
    Simulation (StateM (Watched P H (Journal σ))) (StateM (Watched P H (Journal σ))) where
  rel x y := ∀ watched watched', watched.state.state = watched'.state.state →
    Request.calls watched.requests = Request.calls watched'.requests →
      (x.run watched).1 = (y.run watched').1 ∧
      (x.run watched).2.state.state = (y.run watched').2.state.state ∧
      Request.calls (x.run watched).2.requests = Request.calls (y.run watched').2.requests
  pure _ _ _ states called := ⟨rfl, states, called⟩
  bind first rest watched watched' states called := by
    obtain ⟨results, statesAfter, calledAfter⟩ := first watched watched' states called
    rw [run_then, run_then, results]
    exact rest _ _ _ statesAfter calledAfter

theorem watched_alike (work : Reporting σ α) (request : α → Request P H) :
    (apartFromReports P H σ).rel (watch work.noted request) (watch work.noted request) := by
  rintro ⟨⟨state, events⟩, requests⟩ ⟨⟨_, events'⟩, requests'⟩ rfl called
  refine ⟨rfl, rfl, ?_⟩
  exact (Request.calls_append _ _).trans
    ((congrArg (· ++ _) called).trans (Request.calls_append _ _).symm)

theorem emit_unreported (staff : Staff P H σ) (event : Event) :
    (apartFromReports P H σ).rel (staff.host.watched.emit event)
      (staff.host.watched.unlogged.emit event) := by
  rintro ⟨⟨state, events⟩, requests⟩ ⟨⟨_, events'⟩, requests'⟩ rfl called
  refine ⟨rfl, rfl, ?_⟩
  exact (Request.calls_append _ _).trans ((List.append_nil _).trans called)

/-- It makes no difference to anything else whether reports are kept. -/
theorem unreported_alike (staff : Staff P H σ) (table : Table P H) (args : List Value) :
    (apartFromReports P H σ).rel (table.resolve staff.host.watched args)
      (table.resolve staff.host.watched.unlogged args) := by
  refine (apartFromReports P H σ).resolve_alike (fun p value => watched_alike _ _) (emit_unreported staff)
    ?_ table args
  intro handler args
  cases handler with
  | native body => exact watched_alike _ _
  | function f => exact watched_alike _ _

/-- A table that is configured otherwise comes to the same with the same runs in the same order. -/
theorem configured_alike (staff : Staff P H σ) (table : Table P H) (config : Config)
    (args : List Value) (watched : Watched P H (Journal σ)) :
    let run := (table.resolve staff.host.watched args).run watched
    let configured := (Table.resolve staff.host.watched { table with config } args).run watched
    configured.1 = run.1 ∧ configured.2.state.state = run.2.state.state ∧
      Request.calls configured.2.requests = Request.calls run.2.requests := by
  intro run configured
  have one := unreported_alike staff table args watched watched rfl rfl
  have other := unreported_alike staff { table with config } args watched watched rfl rfl
  rw [Table.resolve_configured] at other
  exact ⟨other.1.trans one.1.symm, other.2.1.trans one.2.1.symm, other.2.2.trans one.2.2.symm⟩

/-! ### What is reported -/

namespace Table

/-- The reports about bindings that reject a call; `index` is that of the first one. -/
def rejectionsFrom (config : Config) (args : List Value) (index : Nat)
    (bindings : List (Binding P H)) : List Event :=
  if config.traceRejections then
    bindings.mapIdx fun offset binding =>
      .rejected config.name (index + offset) binding.schema.display args.length
  else []

/-- The bindings that a search passes before it finds what it finds. -/
def passed (table : Table P H) : Option (Nat × Binding P H) → List (Binding P H)
  | some (index, _) => table.bindings.take index
  | none => table.bindings

/-- The report about what happens once the search is over. -/
def announcement (table : Table P H) (args : List Value) : Option (Nat × Binding P H) → Event
  | some (index, binding) => .dispatching table.config.name index binding.schema.display
  | none =>
    if table.hasFallback then .fallingBack table.config.name args.length
    else .unmatched table.config.name args.length

end Table

/-- Work that asks for no reports. -/
def withoutReports (P H σ : Type) :
    Simulation (StateM (Watched P H σ)) (StateM (Watched P H σ)) where
  rel x _ := ∀ watched, Request.events (x.run watched).2.requests = Request.events watched.requests
  pure _ _ := rfl
  bind first rest watched := by
    rw [run_then]
    exact (rest _ _).trans (first watched)

/-- Asking a binding reports nothing. -/
theorem accepts_unreported (host : Host P H (StateM σ)) (binding : Binding P H) (args : List Value)
    (watched : Watched P H σ) :
    Request.events ((binding.accepts host.watched args).run watched).2.requests =
      Request.events watched.requests := by
  have tests : ∀ p value,
      (withoutReports P H σ).rel (host.watched.test p value) (host.watched.test p value) :=
    fun _ _ _ => (Request.events_append _ _).trans (List.append_nil _)
  exact (withoutReports P H σ).schema_accepts_alike tests binding.schema args watched

private theorem rejections_cons (config : Config) (args : List Value) (index : Nat) (binding : Binding P H)
    (rest : List (Binding P H)) :
    Table.rejectionsFrom config args index (binding :: rest) =
      (if config.traceRejections then
        [.rejected config.name index binding.schema.display args.length] else []) ++
        Table.rejectionsFrom config args (index + 1) rest := by
  unfold Table.rejectionsFrom
  split
  · simp [List.mapIdx_cons, Nat.add_assoc, Nat.add_comm 1]
  · rfl

/-- One step of a search: the binding is asked, and reported if it rejects the call and the table says
so. -/
theorem firstFrom_step (host : Host P H (StateM σ)) (config : Config) (args : List Value)
    (index : Nat) (binding : Binding P H) (rest : List (Binding P H)) (state : σ) :
    (Table.firstFrom host config args index (binding :: rest)).run state =
      let asked := (binding.accepts host args).run state
      let report := host.emit (.rejected config.name index binding.schema.display args.length)
      if asked.1 then (some (index, binding), asked.2)
      else (Table.firstFrom host config args (index + 1) rest).run
        (if config.traceRejections then (report.run asked.2).2 else asked.2) := by
  rw [Table.firstFrom, run_then]
  generalize (binding.accepts host args).run state = asked
  obtain ⟨accepted, after⟩ := asked
  cases accepted <;> cases config.traceRejections <;> rfl

/-- A search reports the bindings that it passes, which are those before the one that it finds. -/
theorem firstFrom_reports (host : Host P H (StateM σ)) (config : Config) (args : List Value)
    (index : Nat) (bindings : List (Binding P H)) (watched : Watched P H σ) :
    let run := (Table.firstFrom host.watched config args index bindings).run watched
    ∃ before after, bindings = before ++ after ∧
      run.1 = after.head?.map (index + before.length, ·) ∧
      Request.events run.2.requests =
        Request.events watched.requests ++ Table.rejectionsFrom config args index before := by
  induction bindings generalizing index watched with
  | nil =>
    refine ⟨[], [], rfl, rfl, ?_⟩
    simp only [Table.rejectionsFrom, List.mapIdx_nil, ite_self, List.append_nil]
    rfl
  | cons binding rest ih =>
    have unreported := accepts_unreported host binding args watched
    rw [firstFrom_step]
    dsimp only
    cases ((binding.accepts host.watched args).run watched).1 with
    | true =>
      refine ⟨[], binding :: rest, rfl, rfl, ?_⟩
      simpa [Table.rejectionsFrom] using unreported
    | false =>
      simp only [Bool.false_eq_true, ↓reduceIte]
      obtain ⟨before, after, split, found, reported⟩ := ih (index + 1) _
      refine ⟨binding :: before, after, by rw [split, List.cons_append], ?_, ?_⟩
      · rw [found, List.length_cons, Nat.add_assoc, Nat.add_comm 1]
      · rw [reported, rejections_cons, ← List.append_assoc]
        congr 1
        split
        · exact (Request.events_append _ _).trans (congrArg (· ++ _) unreported)
        · rw [unreported, List.append_nil]

/-- What a table reports about the bindings that it passes in a search. -/
def Table.rejections (table : Table P H) (args : List Value) (found : Option (Nat × Binding P H)) :
    List Event :=
  rejectionsFrom table.config args 0 (table.passed found)

private theorem search_reports (host : Host P H (StateM σ)) (table : Table P H) (args : List Value)
    (watched : Watched P H σ) :
    let run := (table.firstAccepting host.watched args).run watched
    Request.events run.2.requests =
      Request.events watched.requests ++ table.rejections args run.1 := by
  obtain ⟨before, after, split, found, reported⟩ :=
    firstFrom_reports host table.config args 0 table.bindings watched
  intro run
  have passed : table.passed run.1 = before := by
    change run.1 = _ at found
    rw [found]
    cases after with
    | nil => exact split.trans (List.append_nil _)
    | cons binding rest => simp [Table.passed, split]
  rw [Table.rejections, passed]
  exact reported

theorem Table.Ends.events {table : Table P H} {args : List Value} {found : Option (Nat × Binding P H)}
    {outcome : Outcome} {ending : List (Request P H)} (ends : table.Ends args found outcome ending) :
    Request.events ending = [table.announcement args found] := by
  cases ends with
  | matched => rfl
  | fallback given => simp [announcement, hasFallback, given, Request.events, Request.event?]
  | noMatch missing => simp [announcement, hasFallback, missing, Request.events, Request.event?]

private theorem Table.announcement_level (table : Table P H) (args : List Value)
    (found : Option (Nat × Binding P H)) : (table.announcement args found).level = .debug := by
  unfold announcement
  split
  · rfl
  · split <;> rfl

private theorem Table.rejections_level {table : Table P H} {args : List Value}
    {found : Option (Nat × Binding P H)} {event : Event}
    (reported : event ∈ table.rejections args found) : event.level = .trace := by
  unfold rejections rejectionsFrom at reported
  split at reported
  · obtain ⟨index, within, rfl⟩ := List.mem_mapIdx.mp reported
    rfl
  · cases reported

/-! ### Where the reports of a handler stand -/

/-- What is left of a call once the search is over, apart from the report about it. -/
def Staff.serve (staff : Staff P H σ) (table : Table P H) (args : List Value)
    (found : Option (Nat × Binding P H)) : Reporting σ Outcome := fun state =>
  match found, table.fallback with
  | some (index, binding), _ =>
    let (value, after, events) := staff.run binding.handler args state
    (.matched index value, after, events)
  | none, some fallback =>
    let (value, after, events) := staff.run fallback [] state
    (.fallback value, after, events)
  | none, none => (.noMatch, state, [])

/-- The handler reports behind the table. -/
theorem resolve_journal (staff : Staff P H σ) (table : Table P H) (args : List Value)
    (journal : Journal σ) :
    (table.resolve staff.host args).run journal =
      let (found, after) := (table.firstAccepting staff.host args).run journal
      let (outcome, state, events) := staff.serve table args found after.state
      (outcome, ⟨state, after.events ++ table.announcement args found :: events⟩) := by
  unfold Table.resolve
  rw [run_then]
  generalize (table.firstAccepting staff.host args).run journal = search
  obtain ⟨found, after⟩ := search
  cases found with
  | some found =>
    obtain ⟨index, binding⟩ := found
    simp only [Staff.serve, Table.announcement, Binding.run, staff.run_noted]
    rw [run_then, run_then]
    simp only [Staff.host, Reporting.noted, StateT.run, List.append_assoc, List.singleton_append]
    rfl
  | none =>
    cases given : table.fallback with
    | some fallback =>
      simp only [Staff.serve, Table.announcement, Table.hasFallback, given, staff.run_noted]
      rw [run_then, run_then]
      simp only [Staff.host, Reporting.noted, StateT.run, List.append_assoc, List.singleton_append]
      rfl
    | none =>
      simp only [Staff.serve, Table.announcement, Table.hasFallback, given]
      rfl

/-- The journal holds what was reported before, what the table reported since, and nothing else. -/
def faithful (P H : Type) {σ : Type} (before : List Event) :
    Simulation (StateM (Watched P H (Journal σ))) (StateM (Watched P H (Journal σ))) where
  rel x _ := ∀ watched, watched.state.events = before ++ Request.events watched.requests →
    (x.run watched).2.state.events = before ++ Request.events (x.run watched).2.requests
  pure _ _ kept := kept
  bind first rest watched kept := by
    rw [run_then]
    exact rest _ _ (first watched kept)

/-- Where predicates report nothing of their own, the journal of a search is what the table reports. -/
theorem search_journal (staff : Staff P H σ)
    (silent : ∀ p value state, (staff.test p value state).2.2 = []) (table : Table P H)
    (args : List Value) (journal : Journal σ) :
    let run := (table.firstAccepting staff.host.watched args).run ⟨journal, []⟩
    run.2.state.events = journal.events ++ table.rejections args run.1 := by
  intro run
  have tests : ∀ p value, (faithful P H journal.events).rel
      (staff.host.watched.test p value) (staff.host.watched.test p value) := by
    intro p value watched kept
    have heard : ((staff.host.watched.test p value).run watched).2.state.events =
        watched.state.events ++ (staff.test p value watched.state.state).2.2 := rfl
    have asked : Request.events ((staff.host.watched.test p value).run watched).2.requests =
        Request.events watched.requests :=
      (Request.events_append _ _).trans (List.append_nil _)
    rw [heard, silent, List.append_nil, asked]
    exact kept
  have emits : ∀ event, (faithful P H journal.events).rel
      (staff.host.watched.emit event) (staff.host.watched.emit event) := by
    intro event watched kept
    have heard : ((staff.host.watched.emit event).run watched).2.state.events =
        watched.state.events ++ [event] := rfl
    have asked : Request.events ((staff.host.watched.emit event).run watched).2.requests =
        Request.events watched.requests ++ [event] := Request.events_append _ _
    rw [heard, asked, kept, List.append_assoc]
  have kept := (faithful P H journal.events).firstAccepting_alike tests emits table args
    ⟨journal, []⟩ (List.append_nil _).symm
  rw [search_reports staff.host table args ⟨journal, []⟩] at kept
  exact kept

/-- Reports never influence how a call is resolved, and are exact: a search reports the bindings that it
passes if the table says so, and resolving makes one report of its own before a handler is run. -/
theorem reports_stay_apart (staff : Staff P H σ) (table : Table P H) (args : List Value)
    (journal : Journal σ) :
    let watched : Watched P H (Journal σ) := ⟨journal, []⟩
    let searched := (table.firstAccepting staff.host.watched args).run watched
    let resolved := (table.resolve staff.host.watched args).run watched
    let announced := table.announcement args searched.1
    (∀ other : Table P H, other.bindings = table.bindings → other.fallback = table.fallback →
      let run := (other.resolve staff.host.watched args).run watched
      run.1 = resolved.1 ∧ run.2.state.state = resolved.2.state.state ∧
        Request.calls run.2.requests = Request.calls resolved.2.requests) ∧
    Request.events searched.2.requests = table.rejections args searched.1 ∧
    (∃ ending, table.Ends args searched.1 resolved.1 ending ∧ Request.events ending = [announced] ∧
      resolved.2.requests = searched.2.requests ++ ending) ∧
    (∀ event ∈ Request.events searched.2.requests, event.level = .trace) ∧
    announced.level = .debug ∧
    (∀ binding : Binding P H, Request.events
      ((binding.accepts staff.host.watched args).run watched).2.requests = []) ∧
    ((∀ p value state, (staff.test p value state).2.2 = []) →
      searched.2.state.events = journal.events ++ table.rejections args searched.1) ∧
    resolved.2.state.events = searched.2.state.events ++
      announced :: (staff.serve table args searched.1 searched.2.state.state).2.2 ∧
    (table.firstAccepting staff.host args).run journal = (searched.1, searched.2.state) ∧
    (table.resolve staff.host args).run journal = (resolved.1, resolved.2.state) ∧
    (∃ work : Reporting σ Outcome, table.resolve staff.host args = work.noted) := by
  intro watched searched resolved announced
  have search : (table.firstAccepting staff.host args).run journal = (searched.1, searched.2.state) :=
    firstAccepting_unwatched staff.host table args watched
  have resolve : (table.resolve staff.host args).run journal = (resolved.1, resolved.2.state) :=
    resolve_unwatched staff.host table args watched
  have reported : Request.events searched.2.requests = table.rejections args searched.1 :=
    search_reports staff.host table args watched
  obtain ⟨ending, ends, all⟩ := resolve_ends staff.host table args watched
  refine ⟨?_, reported, ⟨ending, ends, ends.events, all⟩, ?_, table.announcement_level args _,
    fun binding => accepts_unreported staff.host binding args watched,
    fun silent => search_journal staff silent table args journal, ?_, search, resolve,
    resolve_noted staff table args⟩
  · rintro ⟨config, bindings, fallback⟩ rfl rfl
    exact configured_alike staff table config args watched
  · rw [reported]
    exact fun event member => Table.rejections_level member
  · have written := resolve_journal staff table args journal
    rw [resolve, search] at written
    exact congrArg (fun run => run.2.events) written

end Multimethod
