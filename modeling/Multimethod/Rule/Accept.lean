import Multimethod.Rule

/-!
Whether a value satisfies a rule. Predicates are run by a host and may have effects, so acceptance
is a computation; a union asks its members from left to right and stops at the first that accepts.
-/
namespace Multimethod

namespace Rule

variable {P : Type} {m : Type → Type} [Monad m]

mutual

/-- Whether a rule accepts a value. -/
def accepts (test : P → Value → m Bool) (rule : Rule P) (value : Value) : m Bool :=
  match rule with
  | .tag t nullable => pure ((nullable && value.isNull) || t.accepts value)
  | .wildcard => pure true
  | .cls c => pure (value.isInstanceOf c)
  | .predicate p => test p.test value
  | .union members => anyAccepts test members value

/-- Whether one of several rules accepts a value. -/
def anyAccepts (test : P → Value → m Bool) (rules : List (Rule P)) (value : Value) : m Bool :=
  match rules with
  | [] => pure false
  | rule :: rest => do
    if ← rule.accepts test value then return true else anyAccepts test rest value

end

end Rule

end Multimethod
