import Multimethod.Proofs.Acceptance
import Multimethod.Proofs.Requests

/-!
Who handles a call, where predicates have no effects: the first binding whose schema admits it, then
the fallback, then nobody. `resolve_selects_least` settles the outcome together with everything
that runs for it.
-/
namespace Multimethod

variable {P H σ : Type}

/-- A host whose predicates answer as given and do nothing else. -/
def Host.withAnswers {m : Type → Type} [Monad m] (host : Host P H m) (answer : P → Value → Bool) :
    Host P H m :=
  { host with test := fun p value => pure (answer p value) }

/-- A host without any effects, for searches in which no handler runs. -/
def Host.silent (answer : P → Value → Bool) : Host P H Id where
  test := answer
  run _ _ := pure .null
  call _ _ := pure .null
  emit _ := pure ()

namespace Table

/-- The binding of this index is the first whose schema admits the call. -/
def Selects (answer : P → Value → Bool) (table : Table P H) (args : List Value) (index : Nat)
    (binding : Binding P H) : Prop :=
  table.bindings[index]? = some binding ∧ binding.schema.Admits answer args ∧
    ∀ earlier other, earlier < index → table.bindings[earlier]? = some other →
      ¬ other.schema.Admits answer args

/-- No binding admits the call. -/
def RejectedByAll (answer : P → Value → Bool) (table : Table P H) (args : List Value) : Prop :=
  ∀ binding ∈ table.bindings, ¬ binding.schema.Admits answer args

/-- At most one binding is selected. -/
theorem selects_unique {answer : P → Value → Bool} {table : Table P H} {args : List Value}
    {index index' : Nat} {binding binding' : Binding P H}
    (first : table.Selects answer args index binding)
    (second : table.Selects answer args index' binding') : index = index' ∧ binding = binding' := by
  obtain ⟨found, admits, least⟩ := first
  obtain ⟨found', admits', least'⟩ := second
  rcases Nat.lt_trichotomy index index' with before | rfl | after
  · exact absurd admits (least' _ _ before found)
  · rw [found] at found'
    exact ⟨rfl, Option.some.inj found'⟩
  · exact absurd admits' (least _ _ after found')

private theorem not_selects_of_rejected {answer : P → Value → Bool} {table : Table P H} {args : List Value}
    (rejected : table.RejectedByAll answer args) (index : Nat) (binding : Binding P H) :
    ¬ table.Selects answer args index binding :=
  fun selected => rejected binding (List.mem_of_getElem? selected.1) selected.2.1

/-! ### The search -/

/-- What a search for a binding must come to. -/
def Finds (answer : P → Value → Bool) (table : Table P H) (args : List Value) :
    Option (Nat × Binding P H) → Prop
  | some (index, binding) => table.Selects answer args index binding
  | none => table.RejectedByAll answer args

theorem silent_firstFrom_cons (answer : P → Value → Bool) (config : Config) (args : List Value)
    (index : Nat) (binding : Binding P H) (rest : List (Binding P H)) :
    (firstFrom (Host.silent answer) config args index (binding :: rest)).run =
      if (binding.schema.accepts (m := Id) answer args).run = true then some (index, binding)
      else (firstFrom (Host.silent answer) config args (index + 1) rest).run := by
  simp only [firstFrom, Binding.accepts, Host.silent, Id.run_bind]
  cases (binding.schema.accepts (m := Id) answer args).run with
  | true => rfl
  | false =>
    simp only [Bool.false_eq_true, ↓reduceIte]
    split <;> rfl

/-- A search that starts counting at some index finds the first binding that admits the call. -/
theorem firstFrom_finds (answer : P → Value → Bool) (config : Config) (args : List Value)
    (index : Nat) (bindings : List (Binding P H)) :
    ∃ found, Finds answer { bindings } args found ∧
      (firstFrom (Host.silent answer) config args index bindings).run =
        found.map fun (offset, binding) => (index + offset, binding) := by
  induction bindings generalizing index with
  | nil => exact ⟨none, fun _ member => absurd member List.not_mem_nil, rfl⟩
  | cons binding rest ih =>
    have decided := accepts_iff_admits answer binding.schema args
    rw [silent_firstFrom_cons]
    split
    · rename_i accepted
      refine ⟨some (0, binding), ⟨rfl, decided.mp accepted, ?_⟩, rfl⟩
      exact fun _ _ impossible => absurd impossible (Nat.not_lt_zero _)
    · rename_i refused
      have rejected : ¬ binding.schema.Admits answer args := mt decided.mpr refused
      obtain ⟨found, finds, search⟩ := ih (index + 1)
      rw [search]
      cases found with
      | none =>
        refine ⟨none, fun other member => ?_, rfl⟩
        rcases List.mem_cons.mp member with rfl | member
        · exact rejected
        · exact finds other member
      | some found =>
        obtain ⟨offset, selected⟩ := found
        obtain ⟨standing, admits, least⟩ := finds
        refine ⟨some (offset + 1, selected), ⟨standing, admits, fun earlier other before held => ?_⟩,
          by simp only [Option.map_some, Nat.add_assoc, Nat.add_comm 1]⟩
        cases earlier with
        | zero =>
          cases held
          exact rejected
        | succ earlier => exact least earlier other (Nat.lt_of_succ_lt_succ before) held

/-- A search finds the selected binding of a call, or nothing if all bindings reject it. -/
theorem firstAccepting_finds (answer : P → Value → Bool) (table : Table P H) (args : List Value) :
    table.Finds answer args (table.firstAccepting (Host.silent answer) args).run := by
  obtain ⟨found, finds, search⟩ := firstFrom_finds answer table.config args 0 table.bindings
  have same : found.map (fun (offset, binding) => (0 + offset, binding)) = found := by
    cases found <;> simp
  rw [firstAccepting, search, same]
  cases found with
  | none => exact finds
  | some found => exact finds

/-! ### The call -/

/-- What a call comes to, with all that runs for it: the selected handler on all of the arguments,
else the fallback on none, else nothing. -/
inductive Answers (answer : P → Value → Bool) (table : Table P H) (args : List Value) :
    Outcome → List (Handler H × List Value × Value) → Prop where
  | matched {index : Nat} {binding : Binding P H} {value : Value}
      (selected : table.Selects answer args index binding) :
      Answers answer table args (.matched index value) [(binding.handler, args, value)]
  | fallback {fallback : Handler H} {value : Value} (rejected : table.RejectedByAll answer args)
      (given : table.fallback = some fallback) :
      Answers answer table args (.fallback value) [(fallback, [], value)]
  | noMatch (rejected : table.RejectedByAll answer args) (missing : table.fallback = none) :
      Answers answer table args .noMatch []

/-- Nothing shows of a search without effects but what it finds, and no handler runs in it. -/
def quiet (P H σ : Type) : Simulation (StateM (Watched P H σ)) Id where
  rel x y := ∀ watched, (x.run watched).1 = y.run ∧
    Request.executions (x.run watched).2.requests = Request.executions watched.requests
  pure _ _ := ⟨rfl, rfl⟩
  bind first rest watched := by
    obtain ⟨found, ran⟩ := first watched
    rw [run_then, Id.run_bind, ← found, ← ran]
    exact rest _ _

theorem firstAccepting_quiet (host : Host P H (StateM σ)) (answer : P → Value → Bool)
    (table : Table P H) (args : List Value) :
    (quiet P H σ).rel (table.firstAccepting (host.withAnswers answer).watched args)
      (table.firstAccepting (Host.silent answer) args) := by
  refine (quiet P H σ).firstAccepting_alike (fun p value watched => ⟨rfl, ?_⟩)
    (fun event watched => ⟨rfl, ?_⟩) table args
  · exact (Request.executions_append _ _).trans (List.append_nil _)
  · exact (Request.executions_append _ _).trans (List.append_nil _)

theorem resolve_answers (host : Host P H (StateM σ)) (answer : P → Value → Bool)
    (table : Table P H) (args : List Value) (state : σ) :
    let run := (table.resolve (host.withAnswers answer).watched args).run ⟨state, []⟩
    Answers answer table args run.1 (Request.executions run.2.requests) := by
  obtain ⟨ending, ends, all⟩ := resolve_ends (host.withAnswers answer) table args ⟨state, []⟩
  obtain ⟨found, ran⟩ := firstAccepting_quiet host answer table args ⟨state, []⟩
  have search := firstAccepting_finds answer table args
  rw [← found] at search
  dsimp only
  rw [all, Request.executions_append, ran]
  generalize ((table.firstAccepting (host.withAnswers answer).watched args).run ⟨state, []⟩).1 =
    candidate at ends search
  generalize ((table.resolve (host.withAnswers answer).watched args).run ⟨state, []⟩).1 =
    outcome at ends
  cases ends with
  | matched => exact .matched search
  | fallback given => exact .fallback search given
  | noMatch missing => exact .noMatch search missing

section

variable {answer : P → Value → Bool} {table : Table P H} {args : List Value} {outcome : Outcome}
  {executed : List (Handler H × List Value × Value)}

/-- A call matches exactly the binding that is selected for it. -/
theorem Answers.matched_iff (answers : Answers answer table args outcome executed) (index : Nat) :
    (∃ value, outcome = .matched index value) ↔
      ∃ binding, table.Selects answer args index binding := by
  cases answers with
  | matched selected =>
    constructor
    · rintro ⟨value, same⟩
      cases same
      exact ⟨_, selected⟩
    · rintro ⟨binding, other⟩
      obtain ⟨rfl, -⟩ := selects_unique selected other
      exact ⟨_, rfl⟩
  | fallback rejected given =>
    exact ⟨fun ⟨_, same⟩ => (nomatch same),
      fun ⟨binding, selected⟩ => absurd selected (not_selects_of_rejected rejected _ _)⟩
  | noMatch rejected missing =>
    exact ⟨fun ⟨_, same⟩ => (nomatch same),
      fun ⟨binding, selected⟩ => absurd selected (not_selects_of_rejected rejected _ _)⟩

/-- The handler of the binding that is matched runs on the whole call, and nothing else runs. -/
theorem Answers.matched_executed (answers : Answers answer table args outcome executed)
    {index : Nat} {value : Value} {binding : Binding P H} (matched : outcome = .matched index value)
    (selected : table.Selects answer args index binding) :
    executed = [(binding.handler, args, value)] := by
  cases answers with
  | matched other =>
    cases matched
    obtain ⟨-, rfl⟩ := selects_unique selected other
    rfl
  | fallback rejected given => cases matched
  | noMatch rejected missing => cases matched

/-- A call falls back exactly if all bindings reject it and there is a fallback. -/
theorem Answers.fallback_iff (answers : Answers answer table args outcome executed) :
    (∃ value, outcome = .fallback value) ↔
      table.RejectedByAll answer args ∧ table.hasFallback = true := by
  cases answers with
  | matched selected =>
    exact ⟨fun ⟨_, same⟩ => (nomatch same),
      fun ⟨rejected, _⟩ => absurd selected (not_selects_of_rejected rejected _ _)⟩
  | fallback rejected given =>
    exact ⟨fun _ => ⟨rejected, by simp [hasFallback, given]⟩, fun _ => ⟨_, rfl⟩⟩
  | noMatch rejected missing =>
    exact ⟨fun ⟨_, same⟩ => (nomatch same),
      fun ⟨_, given⟩ => by simp [hasFallback, missing] at given⟩

/-- The fallback runs on no arguments, and nothing else runs. -/
theorem Answers.fallback_executed (answers : Answers answer table args outcome executed)
    {value : Value} {fallback : Handler H} (fellBack : outcome = .fallback value)
    (given : table.fallback = some fallback) : executed = [(fallback, [], value)] := by
  cases answers with
  | matched selected => cases fellBack
  | fallback rejected other =>
    cases fellBack
    rw [given] at other
    cases other
    rfl
  | noMatch rejected missing => cases fellBack

/-- A call is unmatched exactly if all bindings reject it and there is no fallback. -/
theorem Answers.noMatch_iff (answers : Answers answer table args outcome executed) :
    outcome = .noMatch ↔ table.RejectedByAll answer args ∧ table.hasFallback = false := by
  cases answers with
  | matched selected =>
    exact ⟨fun same => (nomatch same),
      fun ⟨rejected, _⟩ => absurd selected (not_selects_of_rejected rejected _ _)⟩
  | fallback rejected given =>
    exact ⟨fun same => (nomatch same), fun ⟨_, missing⟩ => by simp [hasFallback, given] at missing⟩
  | noMatch rejected missing =>
    exact ⟨fun _ => ⟨rejected, by simp [hasFallback, missing]⟩, fun _ => rfl⟩

/-- Nothing runs for a call that is unmatched. -/
theorem Answers.noMatch_executed (answers : Answers answer table args outcome executed)
    (unmatched : outcome = .noMatch) : executed = [] := by
  cases answers with
  | matched selected => cases unmatched
  | fallback rejected given => cases unmatched
  | noMatch rejected missing => rfl

end

end Table

/-- A call has no value exactly if it is unmatched. -/
theorem Outcome.value_none_iff (outcome : Outcome) : outcome.value? = none ↔ outcome = .noMatch := by
  cases outcome <;> simp [value?]

/-- Where predicates are functions of the value alone, the first binding that admits a call handles it
with all of the arguments, and nothing else runs. Failing that the fallback alone runs, on none, and
failing that nothing. -/
theorem resolve_selects_least (table : Table P H) (host : Host P H (StateM σ))
    (answer : P → Value → Bool) (args : List Value) (state : σ) :
    let pureHost := host.withAnswers answer
    let run := (table.resolve pureHost.watched args).run ⟨state, []⟩
    let outcome := run.1
    let executed := Request.executions run.2.requests
    (∀ index, (∃ value, outcome = .matched index value) ↔
      ∃ binding, table.Selects answer args index binding) ∧
    (∀ index value binding, outcome = .matched index value →
      table.Selects answer args index binding → executed = [(binding.handler, args, value)]) ∧
    ((∃ value, outcome = .fallback value) ↔
      table.RejectedByAll answer args ∧ table.hasFallback = true) ∧
    (∀ value fallback, outcome = .fallback value → table.fallback = some fallback →
      executed = [(fallback, [], value)]) ∧
    (outcome = .noMatch ↔ table.RejectedByAll answer args ∧ table.hasFallback = false) ∧
    (outcome = .noMatch → executed = []) ∧
    (table.resolve pureHost args).run state = (outcome, run.2.state) ∧
    (table.evaluate pureHost args).run state = (outcome.value?, run.2.state) ∧
    (outcome.value? = none ↔ outcome = .noMatch) := by
  intro pureHost run outcome executed
  have answers : table.Answers answer args outcome executed :=
    Table.resolve_answers host answer table args state
  have unobserved : (table.resolve pureHost args).run state = (outcome, run.2.state) :=
    resolve_unwatched pureHost table args ⟨state, []⟩
  have evaluated : (table.evaluate pureHost args).run state = (outcome.value?, run.2.state) :=
    congrArg (fun (result : Outcome × σ) => (result.1.value?, result.2)) unobserved
  exact ⟨answers.matched_iff, fun _ _ _ => answers.matched_executed, answers.fallback_iff,
    fun _ _ => answers.fallback_executed, answers.noMatch_iff, answers.noMatch_executed, unobserved,
    evaluated, outcome.value_none_iff⟩

end Multimethod
