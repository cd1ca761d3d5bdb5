import Multimethod.Rule.Accept

/-!
The leaves of a rule: what is left of it when unions are taken apart, from left to right and at any
depth. A rule accepts a value just as the row of its leaves does, with the same questions in the
same order: `accepts_eq_any_leaves`.
-/
namespace Multimethod.Rule

variable {P : Type}

mutual

/-- The rules other than unions that a rule is made of, from left to right. -/
def leaves : Rule P → List (Rule P)
  | .tag t nullable => [.tag t nullable]
  | .wildcard => [.wildcard]
  | .cls c => [.cls c]
  | .predicate p => [.predicate p]
  | .union members => leavesOfEach members

/-- The leaves of several rules, one after another. -/
def leavesOfEach : List (Rule P) → List (Rule P)
  | [] => []
  | member :: rest => member.leaves ++ leavesOfEach rest

end

/-- A rule that is no union is its only leaf. -/
theorem leaves_of_plain {rule : Rule P} (plain : rule.isUnion = false) : rule.leaves = [rule] := by
  cases rule with
  | union members => cases plain
  | _ => simp only [leaves]

/-- The leaves of a flat union are its members. -/
theorem leaves_union_of_plain {members : List (Rule P)}
    (plain : ∀ member ∈ members, member.isUnion = false) : (union members).leaves = members := by
  rw [leaves]
  induction members with
  | nil => rfl
  | cons member rest ih =>
    rw [leavesOfEach, leaves_of_plain (plain member List.mem_cons_self),
      ih fun other belongs => plain other (List.mem_cons_of_mem _ belongs)]
    rfl

mutual

theorem plain_of_mem_leaves {leaf : Rule P} : {rule : Rule P} → leaf ∈ rule.leaves →
    leaf.isUnion = false
  | .tag t nullable, belongs => by
    rw [leaves, List.mem_singleton] at belongs
    exact belongs ▸ rfl
  | .wildcard, belongs => by
    rw [leaves, List.mem_singleton] at belongs
    exact belongs ▸ rfl
  | .cls c, belongs => by
    rw [leaves, List.mem_singleton] at belongs
    exact belongs ▸ rfl
  | .predicate p, belongs => by
    rw [leaves, List.mem_singleton] at belongs
    exact belongs ▸ rfl
  | .union members, belongs => by
    rw [leaves] at belongs
    exact plain_of_mem_leavesOfEach belongs

private theorem plain_of_mem_leavesOfEach {leaf : Rule P} : {rules : List (Rule P)} →
    leaf ∈ leavesOfEach rules → leaf.isUnion = false
  | [], belongs => absurd belongs List.not_mem_nil
  | rule :: rest, belongs => by
    rw [leavesOfEach] at belongs
    rcases List.mem_append.mp belongs with first | later
    · exact plain_of_mem_leaves first
    · exact plain_of_mem_leavesOfEach later

end

variable {m : Type → Type} [Monad m] [LawfulMonad m]

private theorem anyAccepts_singleton (test : P → Value → m Bool) (rule : Rule P) (value : Value) :
    anyAccepts test [rule] value = rule.accepts test value := by
  have same : ∀ accepted : Bool, (if accepted = true then pure true else pure false : m Bool) =
      pure accepted := by
    intro accepted
    cases accepted <;> rfl
  simp only [anyAccepts, same, bind_pure]

/-- A row of rules is asked part by part, the second only where the first refuses. -/
theorem anyAccepts_append (test : P → Value → m Bool) (first second : List (Rule P))
    (value : Value) :
    anyAccepts test (first ++ second) value = (do
      if ← anyAccepts test first value then return true else anyAccepts test second value) := by
  induction first with
  | nil => simp [anyAccepts]
  | cons rule rest ih =>
    simp only [List.cons_append, anyAccepts, bind_assoc, ih]
    congr 1
    funext accepted
    cases accepted <;> simp

mutual

/-- A rule asks what the row of its leaves asks. -/
theorem accepts_eq_any_leaves (test : P → Value → m Bool) (value : Value) : (rule : Rule P) →
    rule.accepts test value = anyAccepts test rule.leaves value
  | .tag t nullable => by rw [leaves, anyAccepts_singleton]
  | .wildcard => by rw [leaves, anyAccepts_singleton]
  | .cls c => by rw [leaves, anyAccepts_singleton]
  | .predicate p => by rw [leaves, anyAccepts_singleton]
  | .union members => by rw [leaves, accepts, anyAccepts_eq_any_leaves test value members]

private theorem anyAccepts_eq_any_leaves (test : P → Value → m Bool) (value : Value) :
    (rules : List (Rule P)) → anyAccepts test rules value = anyAccepts test (leavesOfEach rules) value
  | [] => by rw [leavesOfEach]
  | rule :: rest => by
    rw [leavesOfEach, anyAccepts_append, anyAccepts, accepts_eq_any_leaves test value rule,
      anyAccepts_eq_any_leaves test value rest]

end

/-- A rule asks and answers what the flat union of its leaves does. -/
theorem accepts_union_leaves (test : P → Value → m Bool) (value : Value) (rule : Rule P) :
    (union rule.leaves).accepts test value = rule.accepts test value := by
  rw [accepts, accepts_eq_any_leaves]

end Multimethod.Rule
