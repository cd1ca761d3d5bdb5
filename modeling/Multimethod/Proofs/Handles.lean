import Multimethod.Identity
import Multimethod.Proofs.Parts

/-!
What a program can hold in its hands: the symbols, functions and classes that it has made so far, and the
values that are built on them. Whatever it makes, and in whatever order, one identity belongs to one
thing only (`Made.unique`), so that what is known by its identity is known.
-/
namespace Multimethod

/-- The things with an identity that have been made so far. -/
structure Handles where
  symbols : List Symbol
  functions : List Function
  classes : List Class

/-- Things are told apart by their identities, all of which have been handed out. -/
structure Identified {α : Type} (identity : α → Nat) (supply : Supply) (made : List α) : Prop where
  below : ∀ thing ∈ made, identity thing < supply.next
  unique : ∀ thing ∈ made, ∀ other ∈ made, identity thing = identity other → thing = other

namespace Identified

variable {α : Type} {identity : α → Nat} {supply : Supply} {made : List α}

theorem none : Identified identity supply [] :=
  ⟨fun _ among => absurd among List.not_mem_nil, fun _ among => absurd among List.not_mem_nil⟩

/-- Something of another kind has been made. -/
theorem later (identified : Identified identity supply made) :
    Identified identity ⟨supply.next + 1⟩ made :=
  ⟨fun thing among => Nat.lt_succ_of_lt (identified.below thing among), identified.unique⟩

/-- A new thing differs from all that were made before. -/
theorem new (identified : Identified identity supply made) {thing : α}
    (fresh : identity thing = supply.next) : Identified identity ⟨supply.next + 1⟩ (thing :: made) := by
  have differs : ∀ other ∈ made, identity thing ≠ identity other := fun other among same =>
    absurd (identified.below other among) (by omega)
  constructor
  · intro other among
    rcases List.mem_cons.mp among with rfl | earlier
    · rw [fresh]
      exact Nat.lt_succ_self _
    · exact identified.later.below other earlier
  · intro one among other present same
    rcases List.mem_cons.mp among with rfl | earlier <;>
      rcases List.mem_cons.mp present with rfl | otherEarlier
    · rfl
    · exact absurd same (differs other otherEarlier)
    · exact absurd same.symm (differs one earlier)
    · exact identified.unique one earlier other otherEarlier same

end Identified

namespace Handles

/-- What can have been made from a supply. A class is made on its own or from a class that is there. -/
inductive Made : Supply → Handles → Prop where
  | nothing : Made .initial ⟨[], [], []⟩
  | symbol {supply : Supply} {handles : Handles} (made : Made supply handles)
      (description : Option String) :
      Made (supply.newSymbol description).2
        { handles with symbols := (supply.newSymbol description).1 :: handles.symbols }
  | function {supply : Supply} {handles : Handles} (made : Made supply handles)
      (name : Option String) :
      Made (supply.newFunction name).2
        { handles with functions := (supply.newFunction name).1 :: handles.functions }
  | cls {supply : Supply} {handles : Handles} (made : Made supply handles) (name : String)
      (parent : Option Class) (known : ∀ c ∈ parent, c ∈ handles.classes) :
      Made (supply.newClass name parent).2
        { handles with classes := (supply.newClass name parent).1 :: handles.classes }

/-- One identity belongs to one symbol, one function and one class at most. -/
theorem Made.unique {supply : Supply} {handles : Handles} (made : Made supply handles) :
    Identified Symbol.id supply handles.symbols ∧
    Identified Function.id supply handles.functions ∧
    Identified Class.id supply handles.classes := by
  induction made with
  | nothing => exact ⟨.none, .none, .none⟩
  | symbol _ description ih =>
    obtain ⟨symbols, functions, classes⟩ := ih
    exact ⟨symbols.new rfl, functions.later, classes.later⟩
  | function _ name ih =>
    obtain ⟨symbols, functions, classes⟩ := ih
    exact ⟨symbols.later, functions.new rfl, classes.later⟩
  | cls _ name parent known ih =>
    obtain ⟨symbols, functions, classes⟩ := ih
    refine ⟨symbols.later, functions.later, classes.new ?_⟩
    cases parent <;> rfl

/-- The handle that a value is, or that it is an instance of, has been made. -/
def Knows (handles : Handles) : Value → Prop
  | .symbol s => s ∈ handles.symbols
  | .function f => f ∈ handles.functions
  | .cls c => c ∈ handles.classes
  | .object c _ => c ∈ handles.classes
  | _ => True

/-- A value that a program can have built on what it has made: all handles in it have been made, and its
fields have distinct keys. -/
structure Gives (handles : Handles) (value : Value) : Prop where
  known : value.Everywhere handles.Knows
  wellFormed : value.WellFormed

theorem Gives.part {handles : Handles} {value part : Value} (given : handles.Gives value)
    (among : part ∈ value.parts) : handles.Gives part :=
  ⟨given.known.part among, given.wellFormed.part among⟩

/-- A value that holds nothing is there once its handle is. -/
theorem gives_leaf {handles : Handles} {value : Value} (leaf : value.parts = [])
    (known : handles.Knows value) : handles.Gives value := by
  refine ⟨Value.everywhere_iff.mpr ⟨known, fun part among => ?_⟩, Value.wellFormed_leaf leaf⟩
  exact absurd (leaf ▸ among) List.not_mem_nil

/-- An instance of a known class is there once its fields are. -/
theorem gives_object {handles : Handles} {c : Class} {fields : Fields Value}
    (known : c ∈ handles.classes) (distinct : fields.Distinct)
    (each : ∀ item ∈ fields.map Prod.snd, handles.Gives item) : handles.Gives (.object c fields) := by
  refine ⟨Value.everywhere_iff.mpr ⟨known, fun item among => (each item among).known⟩, ?_⟩
  rw [Value.WellFormed, Value.fieldsWellFormed_iff]
  exact ⟨distinct, fun item among => (each item among).wellFormed⟩

end Handles

end Multimethod
