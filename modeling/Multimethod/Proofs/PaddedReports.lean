import Multimethod.Proofs.Events

/-!
Nulls at the end of a call where reports are kept. Calls that read alike are reported alike but for the number
of their arguments, which rejections, the fallback and an unmatched call mention; what the journal holds beyond
that and what state is left behind they have in common (`padding_shows_in_counts_only`).
-/
namespace Multimethod

variable {P H σ α : Type}

/-- An event without the number of arguments of the call that it is about. -/
def Event.uncounted : Event → Event
  | .rejected table index schema _ => .rejected table index schema 0
  | .fallingBack table _ => .fallingBack table 0
  | .unmatched table _ => .unmatched table 0
  | event => event

/-- Two journals go with the same state and hold the same reports, but for numbers of arguments. -/
structure Journal.AlikeButCounts (one other : Journal σ) : Prop where
  state : one.state = other.state
  events : one.events.map Event.uncounted = other.events.map Event.uncounted

/-- Two computations come to the same from journals that are alike, and leave such journals behind. -/
def apartFromCounts (σ : Type) : Simulation (StateM (Journal σ)) (StateM (Journal σ)) where
  rel x y := ∀ journal journal', journal.AlikeButCounts journal' →
    (x.run journal).1 = (y.run journal').1 ∧ (x.run journal).2.AlikeButCounts (y.run journal').2
  pure _ _ _ alike := ⟨rfl, alike⟩
  bind first rest journal journal' alike := by
    obtain ⟨results, after⟩ := first journal journal' alike
    rw [run_then, run_then, results]
    exact rest _ _ _ after

private theorem noted_alike (work : Reporting σ α) : (apartFromCounts σ).rel work.noted work.noted := by
  rintro ⟨state, events⟩ ⟨_, events'⟩ ⟨rfl, same⟩
  refine ⟨rfl, rfl, ?_⟩
  exact List.map_append.trans ((congrArg (· ++ _) same).trans List.map_append.symm)

private theorem emit_alike (staff : Staff P H σ) {event event' : Event}
    (same : event.uncounted = event'.uncounted) :
    (apartFromCounts σ).rel (staff.host.emit event) (staff.host.emit event') := by
  rintro ⟨state, events⟩ ⟨_, events'⟩ ⟨rfl, earlier⟩
  refine ⟨rfl, rfl, ?_⟩
  change (events ++ [event]).map _ = (events' ++ [event']).map _
  rw [List.map_append, List.map_append, earlier, List.map_singleton, List.map_singleton, same]

/-- A search asks the same at each position of calls that read alike, and reports the same rejections. -/
theorem firstFrom_padded {args other : List Value} (alike : ReadAlike args other) (staff : Staff P H σ)
    (config : Config) (index : Nat) (bindings : List (Binding P H)) :
    (apartFromCounts σ).rel (Table.firstFrom staff.host config args index bindings)
      (Table.firstFrom staff.host config other index bindings) := by
  induction bindings generalizing index with
  | nil => exact (apartFromCounts σ).pure _
  | cons binding rest ih =>
    have asked : (apartFromCounts σ).rel (binding.accepts staff.host args)
        (binding.accepts staff.host other) := by
      have same : binding.accepts staff.host other = binding.accepts staff.host args :=
        (Schema.accepts_congr alike _ _).symm
      rw [same]
      exact (apartFromCounts σ).schema_accepts_alike (fun _ _ => noted_alike _) binding.schema args
    refine (apartFromCounts σ).bind asked fun accepted => ?_
    cases accepted with
    | true => exact (apartFromCounts σ).pure _
    | false =>
      simp only [Bool.false_eq_true, ↓reduceIte]
      cases config.traceRejections with
      | true => exact (apartFromCounts σ).bind (emit_alike staff rfl) fun _ => ih (index + 1)
      | false => exact ih (index + 1)

/-- A search runs the same predicates whether or not reports are kept. -/
theorem search_unreported (staff : Staff P H σ) (table : Table P H) (args : List Value)
    (watched : Watched P H (Journal σ)) :
    Request.calls ((table.firstAccepting staff.host.watched args).run watched).2.requests =
      Request.calls ((table.firstAccepting staff.host.watched.unlogged args).run watched).2.requests :=
  ((apartFromReports P H σ).firstAccepting_alike (fun _ _ => watched_alike _ _)
    (emit_unreported staff) table args watched watched rfl rfl).2.2

private theorem search_padded {args other : List Value} (alike : ReadAlike args other)
    (staff : Staff P H σ) (table : Table P H) (journal : Journal σ) :
    ∃ found after after', (table.firstAccepting staff.host args).run journal = (found, after) ∧
      (table.firstAccepting staff.host other).run journal = (found, after') ∧ after.AlikeButCounts after' := by
  obtain ⟨found, left⟩ :=
    firstFrom_padded alike staff table.config 0 table.bindings journal journal ⟨rfl, rfl⟩
  exact ⟨_, _, _, rfl, congrArg (·, _) found.symm, left⟩

/-! ### Behind the search -/

private theorem resolve_behind {staff : Staff P H σ} {table : Table P H} {args : List Value}
    {found : Option (Nat × Binding P H)} {journal after : Journal σ}
    (search : (table.firstAccepting staff.host args).run journal = (found, after)) :
    (table.resolve staff.host args).run journal =
      let (outcome, state, events) := staff.serve table args found after.state
      (outcome, ⟨state, after.events ++ table.announcement args found :: events⟩) := by
  rw [resolve_journal, search]

private theorem announcement_padded (table : Table P H) (args other : List Value) :
    (table.announcement args none).uncounted = (table.announcement other none).uncounted := by
  unfold Table.announcement
  cases table.hasFallback <;> rfl

private theorem serve_unfound (staff : Staff P H σ) (table : Table P H) (args other : List Value) :
    staff.serve table args none = staff.serve table other none := by
  funext state
  unfold Staff.serve
  cases table.fallback <;> rfl

/-- Where a journal is kept, nulls at the end of a call show in the numbers of arguments that are reported and
nowhere else, until a handler is run on the call. -/
theorem padding_shows_in_counts_only {args other : List Value} (alike : ReadAlike args other)
    (staff : Staff P H σ) (table : Table P H) (journal : Journal σ) :
    let searched (actual : List Value) := (table.firstAccepting staff.host actual).run journal
    let resolved (actual : List Value) := (table.resolve staff.host actual).run journal
    let calls (actual : List Value) := Request.calls
      ((table.firstAccepting staff.host.watched actual).run ⟨journal, []⟩).2.requests
    (searched args).1 = (searched other).1 ∧ (searched args).2.AlikeButCounts (searched other).2 ∧
    calls args = calls other ∧
    ((searched args).1 = none → (resolved args).1 = (resolved other).1 ∧
      (resolved args).2.AlikeButCounts (resolved other).2) ∧
    ∀ index binding, (searched args).1 = some (index, binding) → ∀ actual ∈ [args, other],
      let after := (searched actual).2
      let (value, state, events) := staff.run binding.handler actual after.state
      resolved actual = (.matched index value, ⟨state, after.events ++
        .dispatching table.config.name index binding.schema.display :: events⟩) := by
  intro searched resolved calls
  obtain ⟨found, after, after', search, search', left⟩ := search_padded alike staff table journal
  have one : searched args = (found, after) := search
  have two : searched other = (found, after') := search'
  have called : calls args = calls other := by
    change Request.calls _ = Request.calls _
    rw [search_unreported, search_unreported, Table.search_congr alike]
  refine ⟨by rw [one, two], by rw [one, two]; exact left, called, fun nothing => ?_, ?_⟩
  · rw [one] at nothing
    cases nothing
    have ended : resolved args = _ := resolve_behind search
    have ended' : resolved other = _ := resolve_behind search'
    rw [ended, ended', serve_unfound staff table args other, left.state]
    refine ⟨rfl, rfl, ?_⟩
    simp only [List.map_append, List.map_cons, left.events, announcement_padded table args other]
  · intro index binding chosen actual either
    rw [one] at chosen
    cases chosen
    rcases List.mem_cons.mp either with rfl | last
    · rw [one]
      exact resolve_behind search
    · rw [List.mem_singleton.mp last, two]
      exact resolve_behind search'

end Multimethod
