import Multimethod.Table

/-!
Registration step by step. A step that is refused leaves the table as it was and reports nothing; any
other either appends one binding or replaces the fallback: `take_step`. `attemptAll_leaves` says what
a run of steps leaves behind, those that were refused included, and `registerAll_eq_attempts` that a
chain of steps is a run that ends before the first one that is refused.
-/
namespace Multimethod

variable {P H : Type}

/-! ### What a step asks for -/

namespace Registration

/-- Why the schema of a step was refused, if it has one that was. -/
def schemaError? : Registration P H → Option Error
  | .rule (.error error) _ => some error
  | .ruleValue (.error error) _ => some error
  | _ => none

/-- The handler or fallback of a step, where it is given as a value. -/
def value? : Registration P H → Option Value
  | .ruleValue _ given => some given
  | .fallbackValue given => some given
  | _ => none

/-- The complaint about a value that is given for a handler or a fallback but is no function. -/
def valueError? : Registration P H → Option Error
  | .ruleValue _ (.function _) => none
  | .ruleValue _ given => some (.invalidHandler given.kind)
  | .fallbackValue (.function _) => none
  | .fallbackValue given => some (.invalidFallback given.kind)
  | _ => none

/-- Why a step is refused, if it is. Its schema is looked at before its value. -/
def refusal? (step : Registration P H) : Option Error :=
  step.schemaError?.or step.valueError?

/-- The binding that a step adds, if it adds one. -/
def binding? : Registration P H → Option (Binding P H)
  | .rule (.ok schema) body => some ⟨schema, .native body⟩
  | .ruleValue (.ok schema) (.function f) => some ⟨schema, .function f⟩
  | _ => none

/-- The fallback that a step sets, if it sets one. -/
def fallback? : Registration P H → Option (Handler H)
  | .fallback body => some (.native body)
  | .fallbackValue (.function f) => some (.function f)
  | _ => none

/-- Only functions will do where a handler or a fallback is given as a value. -/
theorem valueError_iff (step : Registration P H) :
    step.valueError? ≠ none ↔ ∃ given, step.value? = some given ∧ ∀ f, given ≠ .function f := by
  cases step with
  | rule schema body => simp [valueError?, value?]
  | ruleValue schema given => cases given <;> simp [valueError?, value?]
  | fallback body => simp [valueError?, value?]
  | fallbackValue given => cases given <;> simp [valueError?, value?]

private theorem schema_first (step : Registration P H) (error : Error)
    (refused : step.schemaError? = some error) : step.refusal? = some error := by
  rw [refusal?, refused, Option.some_or]

private theorem value_second (step : Registration P H) (sound : step.schemaError? = none) :
    step.refusal? = step.valueError? := by
  rw [refusal?, sound, Option.none_or]

/-- A step is refused exactly if its schema is or it gives a value that is no function. -/
theorem refused_iff (step : Registration P H) :
    step.refusal? ≠ none ↔ step.schemaError? ≠ none ∨
      ∃ given, step.value? = some given ∧ ∀ f, given ≠ .function f := by
  rw [← valueError_iff, refusal?, ne_eq, Option.or_eq_none_iff, Decidable.not_and_iff_not_or_not]

/-- The three things that can come of a step, the same for every table. -/
inductive Decided (step : Registration P H) : Prop where
  | refused {error : Error} (refusal : step.refusal? = some error) (unbound : step.binding? = none)
      (unset : step.fallback? = none)
      (ends : ∀ table : Table P H, table.register step = .error error)
  | binds {binding : Binding P H} (accepted : step.refusal? = none)
      (given : step.binding? = some binding) (unset : step.fallback? = none)
      (ends : ∀ table : Table P H,
        table.register step = .ok (table.push binding.schema binding.handler))
  | sets {fallback : Handler H} (accepted : step.refusal? = none) (unbound : step.binding? = none)
      (given : step.fallback? = some fallback)
      (ends : ∀ table : Table P H,
        table.register step = .ok ({ table with fallback := some fallback }, []))

/-- A refused schema settles a step before its value is looked at; after that the value does, where
there is one. -/
theorem decided (step : Registration P H) : step.Decided := by
  cases step with
  | rule schema body =>
    cases schema with
    | error reason => exact .refused rfl rfl rfl fun _ => rfl
    | ok schema => exact .binds rfl rfl rfl fun _ => rfl
  | ruleValue schema given =>
    cases schema with
    | error reason => exact .refused rfl rfl rfl fun _ => rfl
    | ok schema =>
      cases given with
      | function f => exact .binds rfl rfl rfl fun _ => rfl
      | _ => exact .refused rfl rfl rfl fun _ => rfl
  | fallback body => exact .sets rfl rfl rfl fun _ => rfl
  | fallbackValue given =>
    cases given with
    | function f => exact .sets rfl rfl rfl fun _ => rfl
    | _ => exact .refused rfl rfl rfl fun _ => rfl

end Registration

/-! ### Runs of steps -/

namespace Table

def reportOf (config : Config) (index : Nat) (binding : Binding P H) : Event :=
  .registered config.name index binding.schema.display

structure Attempts (P H : Type) where
  table : Table P H
  events : List Event
  /-- For each step why it was refused, if it was. -/
  errors : List (Option Error)

/-- Takes every step of a run in order, whatever has become of the steps before. -/
def attemptAll (table : Table P H) : List (Registration P H) → Attempts P H
  | [] => ⟨table, [], []⟩
  | step :: rest =>
    let first := table.registerAll [step]
    let others := first.table.attemptAll rest
    ⟨others.table, first.events ++ others.events, first.error :: others.errors⟩

/-- All that one step does: it may add a binding and report it, set the fallback, or be refused. -/
theorem take_step (table : Table P H) (step : Registration P H) :
    table.registerAll [step] =
      ⟨{ table with
          bindings := table.bindings ++ step.binding?.toList
          fallback := step.fallback?.or table.fallback },
        step.binding?.toList.map (reportOf table.config table.length), step.refusal?⟩ := by
  cases step.decided with
  | refused refusal unbound unset ends => simp [registerAll, ends, refusal, unbound, unset]
  | binds accepted given unset ends =>
    simp [registerAll, ends, accepted, given, unset, push, reportOf]
  | sets accepted unbound given ends => simp [registerAll, ends, accepted, unbound, given]

/-- What a run of steps leaves behind: the bindings of the steps that add one, in order and reported
by their indices, the last fallback that was set, and every refusal. -/
theorem attemptAll_leaves (table : Table P H) (steps : List (Registration P H)) :
    table.attemptAll steps =
      ⟨{ table with
          bindings := table.bindings ++ steps.filterMap Registration.binding?
          fallback := (steps.filterMap Registration.fallback?).getLast?.or table.fallback },
        (steps.filterMap Registration.binding?).mapIdx fun index binding =>
          reportOf table.config (table.length + index) binding,
        steps.map Registration.refusal?⟩ := by
  induction steps generalizing table with
  | nil => simp [attemptAll]
  | cons step rest ih =>
    simp only [attemptAll, take_step, ih, List.map_cons]
    cases step.decided with
    | refused refusal unbound unset ends =>
      simp [List.filterMap_cons_none unbound, List.filterMap_cons_none unset, unbound, unset]
    | binds accepted given unset ends =>
      simp [List.filterMap_cons_some given, List.filterMap_cons_none unset, given, unset,
        List.mapIdx_cons, length, Nat.add_assoc, Nat.add_comm 1]
    | sets accepted unbound given ends =>
      simp [List.filterMap_cons_none unbound, List.filterMap_cons_some given, unbound, given,
        List.getLast?_cons, length]

example (schema : Schema P) (body : H) :
    let run := (Table.empty {} : Table P H).attemptAll
      [.rule (.error .emptyUnion) body, .rule (.ok schema) body, .fallbackValue .null]
    run.table.length = 1 ∧ run.errors = [some .emptyUnion, none, some (.invalidFallback "null")] :=
  ⟨rfl, rfl⟩

private theorem chain_ends {step : Registration P H} {error : Error} (refused : step.refusal? = some error)
    (table : Table P H) (rest : List (Registration P H)) :
    table.registerAll (step :: rest) = ⟨table, [], some error⟩ := by
  cases step.decided with
  | refused refusal unbound unset ends =>
    cases refusal.symm.trans refused
    simp [registerAll, ends]
  | binds accepted given unset ends => cases accepted.symm.trans refused
  | sets accepted unbound given ends => cases accepted.symm.trans refused

private theorem chain_goes_on {step : Registration P H} (accepted : step.refusal? = none)
    (table : Table P H) (rest : List (Registration P H)) :
    let first := table.registerAll [step]
    let others := first.table.registerAll rest
    table.registerAll (step :: rest) =
      ⟨others.table, first.events ++ others.events, others.error⟩ := by
  cases step.decided with
  | refused refusal unbound unset ends => cases refusal.symm.trans accepted
  | binds accepted given unset ends => simp [registerAll, ends]
  | sets accepted unbound given ends => simp [registerAll, ends]

/-- A chain of steps is a run of those before the first that is refused. -/
theorem registerAll_eq_attempts (table : Table P H) (steps : List (Registration P H)) :
    let run := table.attemptAll (steps.takeWhile fun step => step.refusal?.isNone)
    table.registerAll steps = ⟨run.table, run.events, steps.findSome? Registration.refusal?⟩ := by
  induction steps generalizing table with
  | nil => rfl
  | cons step rest ih =>
    cases refused : step.refusal? with
    | some error =>
      rw [chain_ends refused, List.takeWhile_cons_of_neg (by simp [refused]),
        List.findSome?_cons, refused]
      rfl
    | none =>
      rw [chain_goes_on refused, ih, List.takeWhile_cons_of_pos (by simp [refused]),
        List.findSome?_cons, refused]
      rfl

/-- After a chain of steps each binding was there before or was added by a step. -/
theorem mem_registerAll {table : Table P H} {steps : List (Registration P H)} {binding : Binding P H}
    (member : binding ∈ (table.registerAll steps).table.bindings) :
    binding ∈ table.bindings ∨ ∃ step ∈ steps, step.binding? = some binding := by
  rw [registerAll_eq_attempts, attemptAll_leaves, List.mem_append, List.mem_filterMap] at member
  refine member.imp_right fun ⟨step, taken, given⟩ => ⟨step, ?_, given⟩
  exact (List.takeWhile_sublist _).subset taken

/-- A chain of steps none of which sets the fallback leaves it alone. -/
theorem chain_fallback {table : Table P H} {steps : List (Registration P H)}
    (unset : ∀ step ∈ steps, step.fallback? = none) :
    (table.registerAll steps).table.fallback = table.fallback := by
  have nothing : (steps.takeWhile fun step => step.refusal?.isNone).filterMap
      Registration.fallback? = [] :=
    List.filterMap_eq_nil_iff.mpr fun step taken =>
      unset step ((List.takeWhile_sublist _).subset taken)
  rw [registerAll_eq_attempts, attemptAll_leaves, nothing]
  rfl

end Table

/-- A registration is taken whole or not at all, and one that is refused leaves table and log as they
were. So the bindings after a run are those of the accepted steps in order, and the fallback is the last
that was set. -/
theorem registrations_atomic (steps : List (Registration P H)) :
    (∀ (before : Table P H) (step : Registration P H),
      let after := before.registerAll [step]
      (after.error ≠ none ↔ step.schemaError? ≠ none ∨
        ∃ given, step.value? = some given ∧ ∀ f, given ≠ .function f) ∧
      (∀ error, step.schemaError? = some error → after.error = some error) ∧
      (step.schemaError? = none → after.error = step.valueError?) ∧
      (after.error ≠ none → after.table = before ∧ after.events = [] ∧
        step.binding? = none ∧ step.fallback? = none) ∧
      (after.error = none →
        (∃ binding, step.binding? = some binding ∧ step.fallback? = none ∧
          after.table = { before with bindings := before.bindings ++ [binding] } ∧
          after.events =
            [.registered before.config.name before.length binding.schema.display]) ∨
        (∃ fallback, step.fallback? = some fallback ∧ step.binding? = none ∧
          after.table = { before with fallback := some fallback } ∧ after.events = []))) ∧
    (∀ table : Table P H,
      let run := table.attemptAll steps
      run.table.config = table.config ∧
      run.table.bindings = table.bindings ++ steps.filterMap Registration.binding? ∧
      run.table.fallback =
        (steps.filterMap Registration.fallback?).getLast?.or table.fallback ∧
      run.events = (steps.filterMap Registration.binding?).mapIdx (fun index binding =>
        .registered table.config.name (table.length + index) binding.schema.display) ∧
      run.errors = steps.map fun step => (table.registerAll [step]).error) ∧
    (∀ config : Config,
      let run := (Table.empty config).attemptAll steps
      run.table.config = config ∧
      run.table.bindings = steps.filterMap Registration.binding? ∧
      run.table.fallback = (steps.filterMap Registration.fallback?).getLast? ∧
      run.events = (steps.filterMap Registration.binding?).mapIdx fun index binding =>
        .registered config.name index binding.schema.display) := by
  refine ⟨fun before step => ?_, fun table => ?_, fun config => ?_⟩
  · simp only [Table.take_step]
    refine ⟨step.refused_iff, step.schema_first, step.value_second, ?_, ?_⟩
    · intro refused
      cases step.decided with
      | refused refusal unbound unset ends => simp [unbound, unset]
      | binds accepted given unset ends => exact absurd accepted refused
      | sets accepted unbound given ends => exact absurd accepted refused
    · intro accepted
      cases step.decided with
      | refused refusal unbound unset ends => cases refusal.symm.trans accepted
      | binds accepted given unset ends =>
        exact .inl ⟨_, given, unset, by simp [given, unset], by simp [given, Table.reportOf]⟩
      | sets accepted unbound given ends =>
        exact .inr ⟨_, given, unbound, by simp [given, unbound], by simp [unbound]⟩
  · simp only [Table.attemptAll_leaves, Table.take_step, Table.reportOf, and_self]
  · simp [Table.attemptAll_leaves, Table.empty, Table.reportOf, Table.length]

end Multimethod
