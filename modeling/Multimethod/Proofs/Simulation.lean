import Multimethod.Table.Resolve

/-!
Tables treat hosts alike. Where two hosts answer alike in the sense of some relation between their
computations, everything that a table does with them is alike in that sense too.
-/
namespace Multimethod

/-- A relation between computations of two kinds that returning and sequencing keep. -/
structure Simulation (m n : Type → Type) [Monad m] [Monad n] where
  rel {α : Type} : m α → n α → Prop
  pure {α : Type} (a : α) : rel (pure a) (pure a)
  bind {α β : Type} {x : m α} {y : n α} {f : α → m β} {g : α → n β} :
    rel x y → (∀ a, rel (f a) (g a)) → rel (x >>= f) (y >>= g)

namespace Simulation

variable {m n : Type → Type} [Monad m] [Monad n] {P H : Type} (sim : Simulation m n)
  {test : P → Value → m Bool} {test' : P → Value → n Bool}
  {host : Host P H m} {host' : Host P H n}

mutual

/-- A rule is asked alike of tests that answer alike. -/
theorem accepts_alike (tests : ∀ p value, sim.rel (test p value) (test' p value)) (value : Value) :
    (rule : Rule P) → sim.rel (rule.accepts test value) (rule.accepts test' value)
  | .tag t nullable => by
    simp only [Rule.accepts]
    exact sim.pure _
  | .wildcard => by
    simp only [Rule.accepts]
    exact sim.pure _
  | .cls c => by
    simp only [Rule.accepts]
    exact sim.pure _
  | .predicate p => by
    simp only [Rule.accepts]
    exact tests p.test value
  | .union members => by
    simp only [Rule.accepts]
    exact anyAccepts_alike tests value members

/-- Several rules are asked alike. -/
theorem anyAccepts_alike (tests : ∀ p value, sim.rel (test p value) (test' p value))
    (value : Value) : (rules : List (Rule P)) →
      sim.rel (Rule.anyAccepts test rules value) (Rule.anyAccepts test' rules value)
  | [] => by
    simp only [Rule.anyAccepts]
    exact sim.pure _
  | rule :: rest => by
    simp only [Rule.anyAccepts]
    refine sim.bind (accepts_alike tests value rule) fun accepted => ?_
    cases accepted with
    | true => exact sim.pure _
    | false => exact anyAccepts_alike tests value rest

end

private theorem eachAccepts_alike (tests : ∀ p value, sim.rel (test p value) (test' p value))
    (rules : List (Rule P)) (args : List Value) :
    sim.rel (Schema.eachAccepts test rules args) (Schema.eachAccepts test' rules args) := by
  induction rules generalizing args with
  | nil => exact sim.pure _
  | cons rule rules ih =>
    refine sim.bind (sim.accepts_alike tests _ rule) fun accepted => ?_
    cases accepted with
    | true => exact ih args.tail
    | false => exact sim.pure _

/-- A schema is asked alike. -/
theorem schema_accepts_alike (tests : ∀ p value, sim.rel (test p value) (test' p value))
    (schema : Schema P) (args : List Value) :
    sim.rel (schema.accepts test args) (schema.accepts test' args) := by
  unfold Schema.accepts
  cases schema.arity? args with
  | none => exact sim.pure _
  | some count => exact sim.eachAccepts_alike tests _ _

theorem firstFrom_alike (tests : ∀ p value, sim.rel (host.test p value) (host'.test p value))
    (emits : ∀ event, sim.rel (host.emit event) (host'.emit event)) (config : Config)
    (args : List Value) (index : Nat) (bindings : List (Binding P H)) :
    sim.rel (Table.firstFrom host config args index bindings)
      (Table.firstFrom host' config args index bindings) := by
  induction bindings generalizing index with
  | nil => exact sim.pure _
  | cons binding rest ih =>
    refine sim.bind (sim.schema_accepts_alike tests binding.schema args) fun accepted => ?_
    cases accepted with
    | true => exact sim.pure _
    | false =>
      cases traced : config.traceRejections with
      | true =>
        simp only [Bool.false_eq_true, ↓reduceIte]
        exact sim.bind (emits _) fun _ => ih (index + 1)
      | false =>
        simp only [Bool.false_eq_true, ↓reduceIte]
        exact ih (index + 1)

/-- The first accepting binding is looked for alike. -/
theorem firstAccepting_alike
    (tests : ∀ p value, sim.rel (host.test p value) (host'.test p value))
    (emits : ∀ event, sim.rel (host.emit event) (host'.emit event)) (table : Table P H)
    (args : List Value) :
    sim.rel (table.firstAccepting host args) (table.firstAccepting host' args) :=
  sim.firstFrom_alike tests emits table.config args 0 table.bindings

/-- A call is resolved alike by hosts that also run handlers alike. -/
theorem resolve_alike (tests : ∀ p value, sim.rel (host.test p value) (host'.test p value))
    (emits : ∀ event, sim.rel (host.emit event) (host'.emit event))
    (runs : ∀ (handler : Handler H) args, sim.rel (handler.run host args) (handler.run host' args))
    (table : Table P H) (args : List Value) :
    sim.rel (table.resolve host args) (table.resolve host' args) := by
  refine sim.bind (sim.firstAccepting_alike tests emits table args) fun found => ?_
  cases found with
  | some found =>
    exact sim.bind (emits _) fun _ => sim.bind (runs _ _) fun _ => sim.pure _
  | none =>
    simp only
    cases table.fallback with
    | some fallback => exact sim.bind (emits _) fun _ => sim.bind (runs _ _) fun _ => sim.pure _
    | none => exact sim.bind (emits _) fun _ => sim.pure _

end Simulation

end Multimethod
