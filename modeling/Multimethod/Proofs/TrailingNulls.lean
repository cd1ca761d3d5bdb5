import Multimethod.Proofs.Acceptance
import Multimethod.Proofs.Requests

/-!
Nulls at the end of a call. A table looks at what stands at each position and at nothing else of a
call, so calls that differ in trailing nulls only are searched for by the same computation, whatever
effects predicates have: `search_congr`. Only the number of arguments in the report of a rejection
and the handler that is found see the difference, which is what `trailing_nulls_never_show` settles.
-/
namespace Multimethod

variable {P H σ : Type}

/-- Two calls have the same argument at each position, where an absent one counts as null. -/
def ReadAlike (args other : List Value) : Prop :=
  ∀ position, argumentAt args position = argumentAt other position

private theorem readAlike_append_nulls (args : List Value) (count : Nat) :
    ReadAlike args (args ++ List.replicate count .null) :=
  fun position => (argumentAt_append_nulls args count position).symm

/-- Calls of which the same is left without trailing nulls differ in trailing nulls only. -/
theorem readAlike_of_dropNulls {args other : List Value}
    (same : Schema.dropNulls args = Schema.dropNulls other) : ReadAlike args other := by
  obtain ⟨count, split⟩ := Schema.dropNulls_append_nulls args
  obtain ⟨otherCount, otherSplit⟩ := Schema.dropNulls_append_nulls other
  intro position
  rw [split, otherSplit, argumentAt_append_nulls, argumentAt_append_nulls, same]

/-! ### Any effects -/

section

variable {m : Type → Type} [Monad m]

/-- A host that pays no heed to events. -/
def Host.unlogged (host : Host P H m) : Host P H m :=
  { host with emit := fun _ => pure () }

theorem Host.unlogged_emit (host : Host P H m) (event : Event) :
    host.unlogged.emit event = pure () := rfl

theorem Schema.accepts_congr {args other : List Value} (alike : ReadAlike args other)
    (test : P → Value → m Bool) (schema : Schema P) :
    schema.accepts test args = schema.accepts test other := by
  have fits : schema.Fits args ↔ schema.Fits other := by
    simp only [Schema.Fits, alike _]
  simp only [Schema.accepts_eq_each, fits, Schema.eachAccepts_congr test schema.rules alike]

private theorem Table.firstFrom_congr {args other : List Value} (alike : ReadAlike args other)
    (host : Host P H m) (config : Config) (index : Nat) (bindings : List (Binding P H)) :
    firstFrom host.unlogged config args index bindings =
      firstFrom host.unlogged config other index bindings := by
  induction bindings generalizing index with
  | nil => simp only [firstFrom]
  | cons binding rest ih =>
    have first : binding.accepts host.unlogged args = binding.accepts host.unlogged other :=
      Schema.accepts_congr alike _ _
    simp only [firstFrom, first, ih, Host.unlogged_emit]

/-- A table searches for calls that read alike by one and the same computation. -/
theorem Table.search_congr {args other : List Value} (alike : ReadAlike args other)
    (host : Host P H m) (table : Table P H) :
    table.firstAccepting host.unlogged args = table.firstAccepting host.unlogged other :=
  firstFrom_congr alike host table.config 0 table.bindings

end

/-! ### What is asked -/

/-- Two watched computations do the same and ask the same; they may report different events. -/
def apartFromEvents (P H σ : Type) :
    Simulation (StateM (Watched P H σ)) (StateM (Watched P H σ)) where
  rel x y := ∀ watched watched', watched.state = watched'.state →
    Request.questions watched.requests = Request.questions watched'.requests →
      (x.run watched).1 = (y.run watched').1 ∧
      (x.run watched).2.state = (y.run watched').2.state ∧
      Request.questions (x.run watched).2.requests = Request.questions (y.run watched').2.requests
  pure _ _ _ states asked := ⟨rfl, states, asked⟩
  bind first rest watched watched' states asked := by
    obtain ⟨results, statesAfter, askedAfter⟩ := first watched watched' states asked
    rw [run_then, run_then, results]
    exact rest _ _ _ statesAfter askedAfter

/-- The questions of a search do not depend on whether its reports are kept. -/
theorem questions_unreported (host : Host P H (StateM σ)) (table : Table P H) (args : List Value)
    (state : σ) :
    Request.questions ((table.firstAccepting host.unlogged.watched args).run ⟨state, []⟩).2.requests =
      Request.questions
        ((table.firstAccepting host.watched.unlogged args).run ⟨state, []⟩).2.requests := by
  have tests : ∀ p value, (apartFromEvents P H σ).rel (host.unlogged.watched.test p value)
      (host.watched.unlogged.test p value) := by
    rintro p value ⟨state, requests⟩ ⟨_, others⟩ rfl asked
    refine ⟨rfl, rfl, ?_⟩
    exact (Request.questions_append _ _).trans
      ((congrArg (· ++ _) asked).trans (Request.questions_append _ _).symm)
  have emits : ∀ event, (apartFromEvents P H σ).rel (host.unlogged.watched.emit event)
      (host.watched.unlogged.emit event) := by
    rintro event ⟨state, requests⟩ ⟨_, others⟩ rfl asked
    refine ⟨rfl, rfl, ?_⟩
    exact (Request.questions_append _ _).trans ((List.append_nil _).trans asked)
  have alike := (apartFromEvents P H σ).firstAccepting_alike tests emits table args
  exact (alike ⟨state, []⟩ ⟨state, []⟩ rfl rfl).2.2

/-- A table takes two calls alike: it looks for their binding in the same way and ends them in the
same way, except for what the handler that it finds does with them. -/
structure Table.TakesAlike (host : Host P H (StateM σ)) (table : Table P H) (state : σ)
    (args other : List Value) : Prop where
  /-- The same binding is found, if any, and the search leaves the same behind. -/
  search : (table.firstAccepting host other).run state = (table.firstAccepting host args).run state
  questions :
    Request.questions ((table.firstAccepting host.watched other).run ⟨state, []⟩).2.requests =
      Request.questions ((table.firstAccepting host.watched args).run ⟨state, []⟩).2.requests
  /-- If a binding is found, both calls end with its index and with what its handler makes of them. -/
  matched : ∀ index binding after,
    (table.firstAccepting host args).run state = (some (index, binding), after) →
      ∀ actual ∈ [args, other], (table.resolve host actual).run state =
        (.matched index ((binding.run host actual).run after).1,
          ((binding.run host actual).run after).2)
  /-- If none is found, both calls end in the fallback, with the same value, or both unmatched. -/
  unmatched : ∀ after, (table.firstAccepting host args).run state = (none, after) →
    (table.resolve host other).run state = (table.resolve host args).run state

private theorem Table.resolve_found {host : Host P H (StateM σ)} {table : Table P H} {args : List Value}
    {state after : σ} {index : Nat} {binding : Binding P H}
    (found : (table.firstAccepting host.unlogged args).run state = (some (index, binding), after)) :
    (table.resolve host.unlogged args).run state =
      (.matched index ((binding.run host.unlogged args).run after).1,
        ((binding.run host.unlogged args).run after).2) := by
  unfold resolve
  rw [run_then, found]
  rfl

/-- Calls that read alike are taken alike. -/
theorem Table.takesAlike_of_readAlike {args other : List Value} (alike : ReadAlike args other)
    (host : Host P H (StateM σ)) (table : Table P H) (state : σ) :
    table.TakesAlike host.unlogged state args other := by
  have search : (table.firstAccepting host.unlogged other).run state =
      (table.firstAccepting host.unlogged args).run state := by
    rw [search_congr alike]
  refine ⟨search, ?_, fun index binding after found actual either => ?_, fun after nothing => ?_⟩
  · rw [questions_unreported, questions_unreported, search_congr alike]
  · rcases List.mem_cons.mp either with rfl | last
    · exact resolve_found found
    · rw [List.mem_singleton.mp last]
      exact resolve_found (search.trans found)
  · unfold resolve
    rw [run_then, run_then, search, nothing]
    cases table.fallback <;> rfl

/-- Nulls at the end of a call never decide who handles it, nor what is asked on the way, whatever
effects predicates have. Only the handler that is found can tell them, and the number of arguments in
reports. -/
theorem trailing_nulls_never_show (host : Host P H (StateM σ)) (table : Table P H) (state : σ)
    (args : List Value) :
    (∀ count, table.TakesAlike host.unlogged state args (args ++ List.replicate count .null)) ∧
    (∀ other, Schema.dropNulls args = Schema.dropNulls other →
      table.TakesAlike host.unlogged state args other) :=
  ⟨fun count => Table.takesAlike_of_readAlike (readAlike_append_nulls args count) host table state,
    fun _ same => Table.takesAlike_of_readAlike (readAlike_of_dropNulls same) host table state⟩

end Multimethod
