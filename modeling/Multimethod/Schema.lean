import Multimethod.Rule.Accept

/-!
Schemas: one rule for each argument of a call.

A call may have fewer arguments than the schema has rules; the absent ones count as null. It may
have more only if all arguments beyond the rules are null at the end of the list, and those do not
take part.
-/
namespace Multimethod

/-- Rules for the arguments of a call, in order. -/
structure Schema (P : Type) where
  rules : List (Rule P)

namespace Schema

variable {P : Type}

/-- The schema of calls without arguments. -/
def empty : Schema P := ⟨[]⟩

instance : Inhabited (Schema P) := ⟨empty⟩

/-- The number of rules. -/
def length (schema : Schema P) : Nat :=
  schema.rules.length

/-- A schema in print. -/
def display (schema : Schema P) : String :=
  "(" ++ ", ".intercalate (schema.rules.map Rule.display) ++ ")"

/-! ### Making schemas -/

/-- The schema of the given rules, each of which must be in order. -/
def ofRules (rules : List (Rule P)) : Except Error (Schema P) := do
  rules.forM Rule.check
  return ⟨rules⟩

/-- The schema of rules that may be refused; the first refusal counts. -/
def ofResults (results : List (Except Error (Rule P))) : Except Error (Schema P) := do
  ofRules (← results.mapM id)

/-- The schema that is written down as a list. -/
def ofSources (sources : List (Rule.Source P)) : Except Error (Schema P) :=
  ofResults (sources.map Rule.Source.toRule)

/-- The schema of the documents of its rules. -/
def ofJsonRules (rules : List Json) : Except Error (Schema P) := do
  ofRules (← rules.mapM Rule.ofJson)

/-- The schema that a document stands for: an array of rules. -/
def ofJson : Json → Except Error (Schema P)
  | .array rules => ofJsonRules rules
  | other => .error (.invalidRule other.compact)

/-! ### Accepting calls -/

/-- The arguments without the nulls at their end. -/
def dropNulls (args : List Value) : List Value :=
  (args.reverse.dropWhile Value.isNull).reverse

/-- How many arguments take part in a call: all of them where there is a rule for each, otherwise
all up to the last that is not null; none if that one is beyond the rules. -/
def arity? (schema : Schema P) (args : List Value) : Option Nat :=
  let count := if args.length ≤ schema.length then args.length else (dropNulls args).length
  if count ≤ schema.length then some count else none

variable {m : Type → Type} [Monad m]

/-- Whether each rule accepts the argument in its place, up to the first that does not. An argument
that is absent counts as null. -/
def eachAccepts (test : P → Value → m Bool) : List (Rule P) → List Value → m Bool
  | [], _ => pure true
  | rule :: rules, args => do
    if ← rule.accepts test (args.headD .null) then eachAccepts test rules args.tail else return false

/-- Whether a schema accepts the arguments of a call. Where too many take part no rule is asked. -/
def accepts (test : P → Value → m Bool) (schema : Schema P) (args : List Value) : m Bool :=
  match schema.arity? args with
  | none => pure false
  | some count => eachAccepts test schema.rules (args.take count)

end Schema

end Multimethod
