/-!
Nominal classes with single inheritance. A class is known by its identity, not by its name, and
carries its ancestry with it, so a parent is always older than its subclasses.
-/
namespace Multimethod

/-- A class: its identity, its name, and its parent where it has one. -/
inductive Class where
  | root (id : Nat) (name : String)
  | derived (id : Nat) (name : String) (parent : Class)

namespace Class

/-- The identity of a class. -/
def id : Class → Nat
  | .root id _ => id
  | .derived id _ _ => id

/-- The name of a class, which other classes may share. -/
def name : Class → String
  | .root _ name => name
  | .derived _ name _ => name

/-- The class that this one extends. -/
def parent? : Class → Option Class
  | .root _ _ => none
  | .derived _ _ parent => some parent

/-- Classes are compared by identity. -/
instance : BEq Class := ⟨fun a b => a.id == b.id⟩

/-- The class itself, then its parent, and so on up to the root. -/
def ancestors : Class → List Class
  | .root id name => [.root id name]
  | .derived id name parent => .derived id name parent :: parent.ancestors

/-- Whether a class is `other` or inherits from it. -/
def isSubclassOf (cls other : Class) : Bool :=
  cls.ancestors.any (· == other)

/-- A class as diagnostics show it, with its direct parent. -/
def inspect (cls : Class) : String :=
  match cls.parent? with
  | none => "class " ++ cls.name
  | some parent => "class " ++ cls.name ++ " extends " ++ parent.name

end Class

instance : Inhabited Class := ⟨.root 0 ""⟩

end Multimethod
