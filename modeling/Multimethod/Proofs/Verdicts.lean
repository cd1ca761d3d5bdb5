import Multimethod.Proofs.Building
import Multimethod.Proofs.OneLine

/-!
Verdicts on all bindings of a table against the search for the first that accepts a call. The
verdicts are made one by one and the search stops early, yet without effects the first accepted
verdict is on the very binding that is found (`find_verdicts`). What is then said about the call names
that verdict, and on the table of a definition it is a single line: `verdicts_agree`.
-/
namespace Multimethod

variable {P H σ : Type}

private theorem Outcome.matched_of_index {outcome : Outcome} {index : Nat}
    (given : outcome.index? = some index) : ∃ value, outcome = .matched index value := by
  cases outcome with
  | matched other value =>
    cases given
    exact ⟨value, rfl⟩
  | fallback value => cases given
  | noMatch => cases given

/-- A call that no binding accepted fell back or was unmatched. -/
theorem Outcome.index_none_iff (outcome : Outcome) :
    outcome.index? = none ↔ (∃ value, outcome = .fallback value) ∨ outcome = .noMatch := by
  cases outcome <;> simp [index?]

/-- Bindings are judged alike by hosts whose predicates answer alike. -/
theorem Simulation.verdicts_alike {m n : Type → Type} [Monad m] [Monad n] (sim : Simulation m n)
    {host : Host P H m} {host' : Host P H n}
    (tests : ∀ p value, sim.rel (host.test p value) (host'.test p value)) (args : List Value)
    (index : Nat) (bindings : List (Binding P H)) :
    sim.rel (Table.verdictsFrom host args index bindings)
      (Table.verdictsFrom host' args index bindings) := by
  induction bindings generalizing index with
  | nil => exact sim.pure _
  | cons binding rest ih =>
    refine sim.bind (sim.schema_accepts_alike tests binding.schema args) fun accepted => ?_
    exact sim.bind (ih (index + 1)) fun others => sim.pure _

namespace Table

/-- The verdict on a binding, where predicates have no effects. -/
def verdictOn (answer : P → Value → Bool) (args : List Value) (index : Nat)
    (binding : Binding P H) : Verdict :=
  ⟨index, binding.schema.display, (binding.schema.accepts (m := Id) answer args).run⟩

theorem silent_verdictsFrom (answer : P → Value → Bool) (args : List Value) (index : Nat)
    (bindings : List (Binding P H)) :
    (verdictsFrom (Host.silent answer) args index bindings).run =
      bindings.mapIdx fun offset binding => verdictOn answer args (index + offset) binding := by
  induction bindings generalizing index with
  | nil => rfl
  | cons binding rest ih =>
    have others :
        (fun offset (other : Binding P H) => verdictOn answer args (index + 1 + offset) other) =
          fun offset other => verdictOn answer args (index + (offset + 1)) other := by
      funext offset other
      rw [Nat.add_assoc, Nat.add_comm 1]
    rw [List.mapIdx_cons, ← others, ← ih (index + 1)]
    rfl

/-- The first accepted verdict is on the binding that a search finds. -/
theorem find_verdictsFrom (answer : P → Value → Bool) (config : Config) (args : List Value)
    (index : Nat) (bindings : List (Binding P H)) :
    (verdictsFrom (Host.silent answer) args index bindings).run.find? (·.accepted) =
      (firstFrom (Host.silent answer) config args index bindings).run.map fun (found, binding) =>
        ⟨found, binding.schema.display, true⟩ := by
  induction bindings generalizing index with
  | nil => rfl
  | cons binding rest ih =>
    have judged : (verdictsFrom (Host.silent answer) args index (binding :: rest)).run =
        verdictOn answer args index binding ::
          (verdictsFrom (Host.silent answer) args (index + 1) rest).run := rfl
    rw [judged, silent_firstFrom_cons, List.find?_cons]
    cases accepted : (binding.schema.accepts (m := Id) answer args).run with
    | true => simp [verdictOn, accepted]
    | false => simpa [verdictOn, accepted] using ih (index + 1)

private theorem find_verdicts (answer : P → Value → Bool) (table : Table P H) (args : List Value) :
    (table.verdicts (Host.silent answer) args).run.find? (·.accepted) =
      (table.firstAccepting (Host.silent answer) args).run.map fun (found, binding) =>
        ⟨found, binding.schema.display, true⟩ :=
  find_verdictsFrom answer table.config args 0 table.bindings

/-- Judging all bindings runs no handler. -/
theorem verdicts_quiet (host : Host P H (StateM σ)) (answer : P → Value → Bool)
    (table : Table P H) (args : List Value) :
    (quiet P H σ).rel (table.verdicts (host.withAnswers answer).watched args)
      (table.verdicts (Host.silent answer) args) := by
  refine (quiet P H σ).verdicts_alike (fun p value watched => ⟨rfl, ?_⟩) args 0 table.bindings
  exact (Request.executions_append _ _).trans (List.append_nil _)

end Table

/-- Work that leaves the state as it is. -/
def still (σ : Type) : Simulation (StateM σ) Id where
  rel x y := ∀ state, x.run state = (y.run, state)
  pure _ _ := rfl
  bind first rest state := by
    rw [run_then, first state]
    exact rest _ state

namespace Table

/-- Judging all bindings shows nothing but the verdicts. -/
theorem verdicts_still (host : Host P H (StateM σ)) (answer : P → Value → Bool)
    (table : Table P H) (args : List Value) (state : σ) :
    (table.verdicts (host.withAnswers answer) args).run state =
      ((table.verdicts (Host.silent answer) args).run, state) :=
  have tests : ∀ p value, (still σ).rel ((host.withAnswers answer).test p value)
      ((Host.silent answer : Host P H Id).test p value) := fun _ _ _ => rfl
  (still σ).verdicts_alike tests args 0 table.bindings state

private theorem verdict_at {answer : P → Value → Bool} {table : Table P H} {args : List Value} {index : Nat}
    {binding : Binding P H} (standing : table.bindings[index]? = some binding) :
    (table.verdicts (Host.silent answer) args).run[index]? =
      some (verdictOn answer args index binding) := by
  rw [verdicts, silent_verdictsFrom, List.getElem?_mapIdx, standing, Option.map_some, Nat.zero_add]

/-! ### What is said -/

/-- The line about a match names the binding under the index that was matched. -/
theorem describe_matched {table : Table P H} {index : Nat} {binding : Binding P H} (value : Value)
    (standing : table.bindings[index]? = some binding) :
    table.describe (.matched index value) =
      "matched #" ++ toString index ++ " " ++ binding.schema.display ++ " -> " ++
        value.toJson.compact := by
  simp only [describe, standing, Option.map_some, Option.getD_some]

/-- How a call ended can be told from the first letter of the line about it. -/
theorem describe_first_letter (table : Table P H) (outcome : Outcome) :
    (table.describe outcome).toList.head? = some (match outcome with
      | .matched _ _ => 'm'
      | .fallback _ => 'f'
      | .noMatch => 'n') := by
  cases outcome <;> simp [describe]

/-- A line speaks of a fallback or of no match exactly if no binding was matched. -/
theorem describe_unmatched_iff (table : Table P H) (outcome : Outcome) :
    ((∃ value : Value, table.describe outcome = "fallback -> " ++ value.toJson.compact) ∨
      table.describe outcome = "no match") ↔ outcome.index? = none := by
  have letter := table.describe_first_letter outcome
  cases outcome with
  | matched index value =>
    simp only [Outcome.index?, reduceCtorEq, iff_false]
    rintro (⟨other, same⟩ | same) <;> simp [same] at letter
  | fallback value => exact ⟨fun _ => rfl, fun _ => .inl ⟨value, rfl⟩⟩
  | noMatch => exact ⟨fun _ => rfl, fun _ => .inr rfl⟩

end Table

/-! ### Tables of definitions -/

namespace Definition

variable {definition : Definition} {table : LabelTable}

theorem built_schemas_oneLine (built : definition.build.table = .ok table) :
    ∀ binding ∈ table.bindings, OneLine binding.schema.display := by
  obtain ⟨bindings, made, rfl⟩ := (built_iff definition table).mp built
  intro binding among
  obtain ⟨index, standing⟩ := List.mem_iff_getElem?.mp among
  obtain ⟨entry, -, spellings, -, rfl⟩ := partner made.flip standing
  exact schema_oneLine spellings

/-- On the table of a definition the line about a call is one line, whatever labels and fallback. -/
theorem built_describe_oneLine (built : definition.build.table = .ok table) (args : List Value)
    (log : List Event) : OneLine (table.describe ((table.resolve host args).run log).1) := by
  refine describe_oneLine (built_schemas_oneLine built) fun result given => ?_
  have answers := resolve_built built args log
  generalize ((table.resolve host args).run log).1 = outcome at given answers
  cases answers with
  | matched => cases given; exact string_oneLine _
  | fallback => cases given; exact string_oneLine _
  | noMatch => cases given

end Definition

/-- Verdicts, searches and calls agree where predicates have no effects: a search finds the binding of the
first accepted verdict, a call is matched by it, and the line about the call names it. If no verdict is
accepted the line gives what the fallback returned, or says that nothing matched where there is none. -/
theorem verdicts_agree (table : Table P H) (host : Host P H (StateM σ)) (answer : P → Value → Bool)
    (args : List Value) (state : σ) :
    let pureHost := host.withAnswers answer
    let verdicts := ((table.verdicts pureHost args).run state).1
    let first := verdicts.find? (·.accepted)
    let found := ((table.firstAccepting pureHost args).run state).1
    let outcome := ((table.resolve pureHost args).run state).1
    let watched : Watched P H σ := ⟨state, []⟩
    verdicts.length = table.length ∧
    (∀ (index : Nat) (binding : Binding P H), table.bindings[index]? = some binding →
      ∃ verdict, verdicts[index]? = some verdict ∧ verdict.index = index ∧
        verdict.schema = binding.schema.display ∧
        (verdict.accepted = true ↔ binding.schema.Admits answer args)) ∧
    found.map Prod.fst = first.map (·.index) ∧
    outcome.index? = first.map (·.index) ∧
    (∀ verdict, first = some verdict → ∃ value, outcome = .matched verdict.index value ∧
      table.describe outcome = "matched #" ++ toString verdict.index ++ " " ++ verdict.schema ++
        " -> " ++ value.toJson.compact) ∧
    (first = none ↔ (∃ value, outcome = .fallback value) ∨ outcome = .noMatch) ∧
    (∀ value, outcome = .fallback value → table.hasFallback = true ∧
      table.describe outcome = "fallback -> " ++ value.toJson.compact) ∧
    (outcome = .noMatch → table.hasFallback = false ∧ table.describe outcome = "no match") ∧
    (first = none ↔ (∃ value : Value, table.describe outcome = "fallback -> " ++ value.toJson.compact) ∨
      table.describe outcome = "no match") ∧
    ((table.verdicts pureHost args).run state).2 = state ∧
    Request.executions ((table.verdicts pureHost.watched args).run watched).2.requests = [] ∧
    Request.executions ((table.firstAccepting pureHost.watched args).run watched).2.requests = [] ∧
    (∀ (definition : Definition) (built : Definition.LabelTable),
      definition.build.table = .ok built → ∀ log,
        OneLine (built.describe ((built.resolve Definition.host args).run log).1)) := by
  intro pureHost verdicts first found outcome watched
  have shown := Table.verdicts_still host answer table args state
  have judged : verdicts = (table.verdicts (Host.silent answer) args).run := congrArg Prod.fst shown
  have searched : found = (table.firstAccepting (Host.silent answer) args).run :=
    Table.search_without_effects host answer table args state
  have picked : first = found.map fun (index, binding) => ⟨index, binding.schema.display, true⟩ := by
    rw [searched, ← Table.find_verdicts, ← judged]
  have finds := Table.firstAccepting_finds answer table args
  rw [← searched] at finds
  have indices : found.map Prod.fst = first.map (·.index) := by
    rw [picked, Option.map_map]
    rfl
  have index : outcome.index? = first.map (·.index) :=
    (resolve_index pureHost table args state).trans indices
  let resolved := (table.resolve pureHost.watched args).run watched
  have ended : outcome = resolved.1 :=
    congrArg Prod.fst (resolve_unwatched pureHost table args watched)
  have answers : table.Answers answer args outcome (Request.executions resolved.2.requests) :=
    ended ▸ Table.resolve_answers host answer table args state
  refine ⟨?_, ?_, indices, index, ?_, ?_, ?_, ?_, ?_, congrArg Prod.snd shown, ?_, ?_, ?_⟩
  · rw [judged, Table.verdicts, Table.silent_verdictsFrom, List.length_mapIdx]
    rfl
  · intro index binding standing
    refine ⟨_, judged ▸ Table.verdict_at standing, rfl, rfl, ?_⟩
    exact accepts_iff_admits answer binding.schema args
  · intro verdict accepted
    have matched : outcome.index? = some verdict.index := by rw [index, accepted, Option.map_some]
    obtain ⟨value, ended⟩ := Outcome.matched_of_index matched
    rw [picked] at accepted
    obtain ⟨⟨least, binding⟩, same, rfl⟩ := Option.map_eq_some_iff.mp accepted
    rw [same] at finds
    refine ⟨value, ended, ?_⟩
    rw [ended]
    exact Table.describe_matched value finds.1
  · rw [← outcome.index_none_iff, index, Option.map_eq_none_iff]
  · intro value fellBack
    refine ⟨(answers.fallback_iff.mp ⟨value, fellBack⟩).2, ?_⟩
    rw [fellBack]
    rfl
  · intro unmatched
    refine ⟨(answers.noMatch_iff.mp unmatched).2, ?_⟩
    rw [unmatched]
    rfl
  · rw [Table.describe_unmatched_iff, index, Option.map_eq_none_iff]
  · exact (Table.verdicts_quiet host answer table args watched).2
  · exact (Table.firstAccepting_quiet host answer table args watched).2
  · exact fun definition built made log => Definition.built_describe_oneLine made args log

end Multimethod
