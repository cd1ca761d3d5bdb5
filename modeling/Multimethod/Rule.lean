import Multimethod.Error
import Multimethod.Tag

/-!
Rules: what one argument of a call must be. A rule is a tag, the wildcard, a class, a predicate, or
a union of rules. Only flat unions with at least one member are in order; `check` tells.
-/
namespace Multimethod

/-- An arbitrary test of one argument. What the test does is known to the host that runs it; rules
of one table name their tests by values of a type `P`. -/
structure Predicate (P : Type) where
  name : Option String
  test : P

/-- A predicate as diagnostics show it. -/
def Predicate.inspect {P : Type} (predicate : Predicate P) : String :=
  "Predicate(" ++ predicate.name.getD "<anonymous>" ++ ")"

/-- What one argument must be. -/
inductive Rule (P : Type) where
  /-- A value of the tag, or also null where the rule is nullable. -/
  | tag (tag : Tag) (nullable : Bool)
  /-- Anything, an absent argument included. -/
  | wildcard
  /-- An instance of the class or of one of its subclasses. -/
  | cls (cls : Class)
  | predicate (predicate : Predicate P)
  /-- Whatever one of the members accepts. -/
  | union (members : List (Rule P))

namespace Rule

variable {P : Type}

instance : Inhabited (Rule P) := ⟨.wildcard⟩

/-- Whether a rule is a union. -/
def isUnion : Rule P → Bool
  | .union _ => true
  | _ => false

/-! ### Text -/

/-- Splits one question mark off the end of a text, and says whether there was one. -/
def splitNullable (text : String) : String × Bool :=
  match text.toList.getLast? with
  | some '?' => (String.ofList text.toList.dropLast, true)
  | _ => (text, false)

/-- The rule that a text stands for: a star, or the name of a tag, either perhaps followed by a
question mark. -/
def parse (text : String) : Except Error (Rule P) :=
  let (name, nullable) := splitNullable text
  if name = "*" then .ok .wildcard
  else
    match Tag.ofName? name with
    | some t => .ok (.tag t nullable)
    | none => .error (.invalidRule text)

mutual

/-- A rule in a printed schema. -/
def display : Rule P → String
  | .tag t nullable => if nullable then t.name ++ "?" else t.name
  | .wildcard => "*"
  | .cls c => c.name
  | .predicate p => p.name.getD "<predicate>"
  | .union members => " | ".intercalate (displayEach members)

/-- `display` for each member. -/
def displayEach : List (Rule P) → List String
  | [] => []
  | member :: rest => member.display :: displayEach rest

end

mutual

/-- A rule as diagnostics show it. -/
def inspect : Rule P → String
  | .tag t nullable =>
    "Tag \x7b tag: " ++ t.inspect ++ ", nullable: " ++ toString nullable ++ " \x7d"
  | .wildcard => "Wildcard"
  | .cls c => "Class(" ++ c.inspect ++ ")"
  | .predicate p => "Predicate(" ++ p.inspect ++ ")"
  | .union members => "Union([" ++ ", ".intercalate (inspectEach members) ++ "])"

/-- `inspect` for each member. -/
def inspectEach : List (Rule P) → List String
  | [] => []
  | member :: rest => member.inspect :: inspectEach rest

end

/-- The members of a union are printed one by one. -/
theorem displayEach_eq_map (members : List (Rule P)) : displayEach members = members.map display := by
  induction members with
  | nil => rfl
  | cons member rest ih => simp [displayEach, ih]

/-! ### Unions -/

/-- A rule is in order unless it is a union without members or one with a union among its members;
of several such members the first is reported. -/
def check : Rule P → Except Error Unit
  | .union members =>
    if members.isEmpty then .error .emptyUnion
    else
      match members.find? isUnion with
      | some nested => .error (.nestedUnion nested.display)
      | none => .ok ()
  | _ => .ok ()

/-- A rule that is in order, or what is wrong with it. -/
def checked (rule : Rule P) : Except Error (Rule P) := do
  rule.check
  return rule

/-- The union of rules that may themselves be refused. Each member is checked when its turn comes;
the union itself is checked last. -/
def unionOf (members : List (Except Error (Rule P))) : Except Error (Rule P) := do
  let members ← members.mapM fun member => member.bind checked
  checked (.union members)

/-! ### What rules are made from -/

/-- What stands for a rule when a schema is written down. -/
inductive Source (P : Type) where
  | text (text : String)
  /-- A rule that has been made already; it is checked again. -/
  | rule (rule : Rule P)
  /-- The result of making a rule. -/
  | result (result : Except Error (Rule P))
  | tag (tag : Tag)
  | cls (cls : Class)
  | predicate (predicate : Predicate P)
  /-- A list stands for the union of its members. -/
  | union (members : List (Source P))

mutual

/-- The rule that a source stands for. -/
def Source.toRule : Source P → Except Error (Rule P)
  | .text s => parse s
  | .rule r => r.checked
  | .result r => r.bind checked
  | .tag t => .ok (.tag t false)
  | .cls c => .ok (.cls c)
  | .predicate p => .ok (.predicate p)
  | .union members => unionOf (Source.toRules members)

/-- `toRule` for each member. -/
def Source.toRules : List (Source P) → List (Except Error (Rule P))
  | [] => []
  | member :: rest => member.toRule :: Source.toRules rest

end

/-- The members of a list become rules one by one. -/
theorem Source.toRules_eq_map (sources : List (Source P)) :
    Source.toRules sources = sources.map Source.toRule := by
  induction sources with
  | nil => rfl
  | cons source rest ih => simp [Source.toRules, ih]

/-- The rule that a document stands for, if it is a string; the printed document is the text of an
invalid rule otherwise. -/
def ofJsonText : Json → Except Error (Rule P)
  | .string text => parse text
  | other => .error (.invalidRule other.compact)

/-- The rule that a document stands for: a string is a rule, an array of strings a union. -/
def ofJson : Json → Except Error (Rule P)
  | .array members => do unionOf ((← members.mapM ofJsonText).map .ok)
  | other => ofJsonText other

end Rule

end Multimethod
