import Multimethod.Class

/-!
Things that are what they are and not what they contain: symbols, functions and classes. A
`Supply` hands out their identities; no two things made from one supply share an identity.
-/
namespace Multimethod

/-- A unique mark. Its description, where it has one, is for the reader only. -/
structure Symbol where
  id : Nat
  description : Option String
deriving Inhabited

instance : BEq Symbol := ⟨fun a b => a.id == b.id⟩

instance : Hashable Symbol := ⟨fun symbol => hash symbol.id⟩

/-- A callable. What it does is known to the host that runs it; here it has an identity and, for
diagnostics, perhaps a name. -/
structure Function where
  id : Nat
  name : Option String
deriving Inhabited

instance : BEq Function := ⟨fun a b => a.id == b.id⟩

/-- A function as diagnostics show it. -/
def Function.inspect (function : Function) : String :=
  "Function(" ++ function.name.getD "<anonymous>" ++ ")"

/-- The source of fresh identities. -/
structure Supply where
  next : Nat
deriving Inhabited

namespace Supply

/-- Nothing has been handed out yet. -/
def initial : Supply := ⟨0⟩

/-- Makes a symbol that differs from all made before. -/
def newSymbol (supply : Supply) (description : Option String) : Symbol × Supply :=
  (⟨supply.next, description⟩, ⟨supply.next + 1⟩)

/-- Makes a function that differs from all made before. -/
def newFunction (supply : Supply) (name : Option String) : Function × Supply :=
  (⟨supply.next, name⟩, ⟨supply.next + 1⟩)

/-- Makes a class that differs from all made before, with or without a parent. -/
def newClass (supply : Supply) (name : String) (parent : Option Class) : Class × Supply :=
  (match parent with
   | none => .root supply.next name
   | some parent => .derived supply.next name parent,
   ⟨supply.next + 1⟩)

end Supply

end Multimethod
