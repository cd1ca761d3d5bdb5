import Mathlib.Data.List.Perm.Subperm
import Mathlib.Logic.Relation
import Multimethod.Proofs.Equality
import Multimethod.Proofs.Handles
import Multimethod.Rule.Accept

/-!
Inheritance. A class can extend only what has been defined before it (`Made.parent_older`), so the way up
from a class leads to ever older classes, ends, and meets none of them twice. Subclasses are found by
identity along that way and form a forest: `ancestry_laws` settles this together with what the rule for a
class accepts.
-/
namespace Multimethod

/-! ### The way up -/

namespace Class

/-- A class is another one, or it extends a class that inherits from the other one. -/
def Inherits : Class → Class → Prop :=
  Relation.ReflTransGen fun cls parent => cls.parent? = some parent

/-- Where a number of steps from a class to its parent leads, if there are so many. -/
def stepsUp (cls : Class) : Nat → Option Class
  | 0 => some cls
  | steps + 1 => cls.parent?.bind fun parent => parent.stepsUp steps

private theorem ancestors_eq (cls : Class) : cls.ancestors = cls :: cls.parent?.elim [] ancestors := by
  cases cls <;> rfl

/-- What is shown of a class from its parent, if it has one, is shown of all classes. -/
theorem parent_induction {motive : Class → Prop}
    (step : ∀ cls, (∀ parent, cls.parent? = some parent → motive parent) → motive cls) (cls : Class) :
    motive cls := by
  induction cls with
  | root id name => exact step _ fun parent extended => nomatch extended
  | derived id name parent ih =>
    refine step _ fun other extended => ?_
    cases extended
    exact ih

/-- The ancestors are what the steps up lead to, one after another. -/
theorem ancestors_eq_stepsUp (cls : Class) (steps : Nat) : cls.ancestors[steps]? = cls.stepsUp steps := by
  induction steps generalizing cls with
  | zero => rw [ancestors_eq]; rfl
  | succ steps ih =>
    rw [ancestors_eq, List.getElem?_cons_succ, stepsUp]
    cases cls.parent? with
    | none => rfl
    | some parent => exact ih parent

private theorem inherits_iff (cls other : Class) :
    cls.Inherits other ↔ other = cls ∨ ∃ parent, cls.parent? = some parent ∧ parent.Inherits other := by
  rw [Inherits, Relation.ReflTransGen.cases_head_iff, eq_comm]

/-- The ancestors of a class are what it inherits from. -/
theorem mem_ancestors_iff (cls other : Class) : other ∈ cls.ancestors ↔ cls.Inherits other := by
  induction cls using parent_induction with
  | step cls ih =>
    rw [ancestors_eq, inherits_iff, List.mem_cons]
    refine or_congr_right ?_
    cases extended : cls.parent? with
    | none => simp
    | some parent => simpa using ih parent extended

/-- Of two classes that one class inherits from, one inherits from the other. -/
theorem inherits_linear {cls other another : Class} (first : cls.Inherits other)
    (second : cls.Inherits another) : other.Inherits another ∨ another.Inherits other :=
  Relation.ReflTransGen.total_of_right_unique
    (fun _ _ _ one two => Option.some.inj (one.symm.trans two)) first second

end Class

/-! ### Classes that have been made -/

namespace Handles

variable {supply : Supply} {handles : Handles}

private theorem parent_of_newClass {name : String} {parent : Option Class} :
    (supply.newClass name parent).1.parent? = parent := by
  cases parent <;> rfl

/-- A class extends one that was there when it was made. -/
theorem Made.parent_older (made : Made supply handles) {cls parent : Class}
    (among : cls ∈ handles.classes) (extended : cls.parent? = some parent) :
    parent ∈ handles.classes ∧ parent.id < cls.id := by
  induction made with
  | nothing => exact absurd among List.not_mem_nil
  | symbol _ _ ih => exact ih among
  | function _ _ ih => exact ih among
  | @cls supply handles made name base known ih =>
    rcases List.mem_cons.mp among with rfl | earlier
    · rw [parent_of_newClass] at extended
      have present := known parent extended
      refine ⟨List.mem_cons_of_mem _ present, ?_⟩
      rw [extended]
      exact made.unique.2.2.below parent present
    · obtain ⟨present, older⟩ := ih earlier
      exact ⟨List.mem_cons_of_mem _ present, older⟩

/-- Whatever a class inherits from has been made, and is older unless it is the class itself. -/
theorem Made.inherited (made : Made supply handles) {cls other : Class}
    (among : cls ∈ handles.classes) (inherits : cls.Inherits other) :
    other ∈ handles.classes ∧ (other = cls ∨ other.id < cls.id) := by
  induction inherits with
  | refl => exact ⟨among, .inl rfl⟩
  | tail _ extended ih =>
    obtain ⟨present, older⟩ := ih
    obtain ⟨parentPresent, parentOlder⟩ := made.parent_older present extended
    refine ⟨parentPresent, .inr ?_⟩
    rcases older with rfl | older
    · exact parentOlder
    · exact Nat.lt_trans parentOlder older

/-- The way up from a class leads to ever older ones. -/
theorem Made.ancestors_descending (made : Made supply handles) {cls : Class}
    (among : cls ∈ handles.classes) :
    cls.ancestors.Pairwise fun younger older => older.id < younger.id := by
  induction cls using Class.parent_induction with
  | step cls ih =>
    rw [Class.ancestors_eq]
    cases extended : cls.parent? with
    | none => exact List.pairwise_singleton _ _
    | some parent =>
      obtain ⟨present, older⟩ := made.parent_older among extended
      refine .cons (fun other above => ?_) (ih parent extended present)
      obtain ⟨-, rfl | oldest⟩ := made.inherited present ((Class.mem_ancestors_iff _ _).mp above)
      · exact older
      · exact Nat.lt_trans oldest older

private theorem Made.ancestors_nodup (made : Made supply handles) {cls : Class}
    (among : cls ∈ handles.classes) : (cls.ancestors.map Class.id).Nodup :=
  List.pairwise_map.mpr ((made.ancestors_descending among).imp Nat.ne_of_gt)

/-- A class has no more ancestors than there are classes. -/
theorem Made.ancestors_length (made : Made supply handles) {cls : Class}
    (among : cls ∈ handles.classes) : cls.ancestors.length ≤ handles.classes.length := by
  have within : cls.ancestors ⊆ handles.classes := fun other above =>
    (made.inherited among ((Class.mem_ancestors_iff _ _).mp above)).1
  exact (List.subperm_of_subset (List.Nodup.of_map _ (made.ancestors_nodup among)) within).length_le

/-- Ancestors are looked for by identity, and those that have been made are found so. -/
theorem Made.isSubclassOf_iff (made : Made supply handles) {cls other : Class}
    (among : cls ∈ handles.classes) (present : other ∈ handles.classes) :
    cls.isSubclassOf other = true ↔ cls.Inherits other := by
  rw [← Class.mem_ancestors_iff, Class.isSubclassOf, List.any_eq_true]
  constructor
  · rintro ⟨ancestor, above, same⟩
    have ancestorPresent := (made.inherited among ((Class.mem_ancestors_iff _ _).mp above)).1
    have one : ancestor = other :=
      made.unique.2.2.unique ancestor ancestorPresent other present (Class.equal_iff.mp same)
    exact one ▸ above
  · exact fun above => ⟨other, above, Class.equal_iff.mpr rfl⟩

/-- Two classes that inherit from each other are one. -/
theorem Made.inherits_antisymm (made : Made supply handles) {cls other : Class}
    (among : cls ∈ handles.classes) (up : cls.Inherits other) (down : other.Inherits cls) :
    cls = other := by
  obtain ⟨present, rfl | older⟩ := made.inherited among up
  · rfl
  · obtain ⟨-, rfl | younger⟩ := made.inherited present down
    · rfl
    · exact absurd younger (Nat.lt_asymm older)

/-- The instances of a class are those of the classes that inherit from it, and nothing else is one. -/
theorem Made.isInstanceOf_iff (made : Made supply handles) {cls : Class}
    (among : cls ∈ handles.classes) {value : Value} (known : handles.Knows value) :
    value.isInstanceOf cls = true ↔
      ∃ own fields, value = .object own fields ∧ own.Inherits cls := by
  cases value with
  | object own fields =>
    rw [Value.isInstanceOf, made.isSubclassOf_iff known among]
    simp
  | _ => simp [Value.isInstanceOf]

end Handles

/-- Of the classes that a program has made, subclasses are those that inherit, whatever their names: a
partial order in which the ancestors of a class stand in a row. The rule for a class asks nobody and
accepts exactly the instances of its subclasses. -/
theorem ancestry_laws {supply : Supply} {handles : Handles} (made : Handles.Made supply handles)
    {P : Type} {m : Type → Type} [Monad m] (test : P → Value → m Bool) :
    (∀ cls ∈ handles.classes,
      (∀ steps, cls.stepsUp steps = cls.ancestors[steps]?) ∧ cls.ancestors.head? = some cls ∧
      cls.stepsUp handles.classes.length = none ∧ (cls.ancestors.map Class.id).Nodup) ∧
    (∀ cls ∈ handles.classes, ∀ other ∈ handles.classes,
      (cls.isSubclassOf other = true ↔ cls.Inherits other)) ∧
    (∀ cls ∈ handles.classes, cls.isSubclassOf cls = true) ∧
    (∀ cls ∈ handles.classes, ∀ other ∈ handles.classes, ∀ another ∈ handles.classes,
      cls.isSubclassOf other = true → other.isSubclassOf another = true →
        cls.isSubclassOf another = true) ∧
    (∀ cls ∈ handles.classes, ∀ other ∈ handles.classes,
      cls.isSubclassOf other = true → other.isSubclassOf cls = true → cls = other) ∧
    (∀ cls ∈ handles.classes, ∀ other ∈ handles.classes, ∀ another ∈ handles.classes,
      cls.isSubclassOf other = true → cls.isSubclassOf another = true →
        other.isSubclassOf another = true ∨ another.isSubclassOf other = true) ∧
    (∀ cls value, (Rule.cls cls : Rule P).accepts test value = pure (value.isInstanceOf cls)) ∧
    (∀ cls ∈ handles.classes, ∀ value, handles.Knows value →
      (value.isInstanceOf cls = true ↔
        ∃ own fields, value = .object own fields ∧ own.Inherits cls)) ∧
    (∀ cls ∈ handles.classes, ∀ other ∈ handles.classes, other.isSubclassOf cls = true →
      ∀ value, handles.Knows value → value.isInstanceOf other = true → value.isInstanceOf cls = true) ∧
    (∀ cls other fields, (Value.cls other).isInstanceOf cls = false ∧
      (Value.hash fields).isInstanceOf cls = false) ∧
    ∀ cls ∈ handles.classes, ∀ other ∈ handles.classes, other.name = cls.name →
      ¬ other.Inherits cls → ∀ fields, (Value.object other fields).isInstanceOf cls = false := by
  have subclass : ∀ cls ∈ handles.classes, ∀ other ∈ handles.classes,
      (cls.isSubclassOf other = true ↔ cls.Inherits other) :=
    fun cls among other present => made.isSubclassOf_iff among present
  refine ⟨fun cls among => ⟨fun steps => (cls.ancestors_eq_stepsUp steps).symm, ?_, ?_,
    made.ancestors_nodup among⟩, subclass, ?_, ?_, ?_, ?_, ?_,
    fun cls among value known => made.isInstanceOf_iff among known, ?_,
    fun cls other fields => ⟨rfl, rfl⟩, ?_⟩
  · rw [cls.ancestors_eq, List.head?_cons]
  · rw [← cls.ancestors_eq_stepsUp, List.getElem?_eq_none_iff]
    exact made.ancestors_length among
  · intro cls among
    exact (subclass cls among cls among).mpr .refl
  · intro cls among other present another anotherPresent
    rw [subclass cls among other present, subclass other present another anotherPresent,
      subclass cls among another anotherPresent]
    exact Relation.ReflTransGen.trans
  · intro cls among other present up down
    rw [subclass cls among other present] at up
    rw [subclass other present cls among] at down
    exact made.inherits_antisymm among up down
  · intro cls among other present another anotherPresent first second
    rw [subclass cls among other present] at first
    rw [subclass cls among another anotherPresent] at second
    rw [subclass other present another anotherPresent, subclass another anotherPresent other present]
    exact Class.inherits_linear first second
  · intro cls value
    rw [Rule.accepts]
  · intro cls among other present inherits value known
    rw [subclass other present cls among] at inherits
    rw [made.isInstanceOf_iff present known, made.isInstanceOf_iff among known]
    rintro ⟨own, fields, rfl, below⟩
    exact ⟨own, fields, rfl, below.trans inherits⟩
  · intro cls among other present _ unrelated fields
    have known : handles.Knows (.object other fields) := present
    rw [← Bool.not_eq_true, made.isInstanceOf_iff among known]
    rintro ⟨own, same, one, inherits⟩
    cases one
    exact unrelated inherits

/-- Three classes of one name, the second of which extends the first: the rule for the first accepts an
instance of the second and refuses one of the third. -/
theorem ancestry_of_namesakes :
    let base := Class.root 0 "Shape"
    let derived := Class.derived 1 "Shape" base
    let stranger := Class.root 2 "Shape"
    let handles : Handles := ⟨[], [], [stranger, derived, base]⟩
    Handles.Made ⟨3⟩ handles ∧ derived.stepsUp 3 = none ∧ (derived.ancestors.map Class.id).Nodup ∧
      (Value.object derived []).isInstanceOf base = true ∧
      (Value.object stranger []).isInstanceOf base = false := by
  intro base derived stranger handles
  have rootless : ∀ classes : List Class, ∀ c ∈ (none : Option Class), c ∈ classes :=
    fun _ _ none => absurd none (Option.not_mem_none _)
  have made : Handles.Made ⟨3⟩ handles := by
    refine .cls (.cls (.cls .nothing "Shape" none (rootless _)) "Shape" (some base) ?_) "Shape" none
      (rootless _)
    intro parent extended
    cases extended
    exact List.mem_singleton.mpr rfl
  obtain ⟨walks, -, itself, -, -, -, -, -, subclasses, -, namesakes⟩ :=
    ancestry_laws made (m := Id) (fun (_ : Empty) _ => false)
  have basePresent : base ∈ handles.classes := by simp [handles]
  have derivedPresent : derived ∈ handles.classes := by simp [handles]
  have strangerPresent : stranger ∈ handles.classes := by simp [handles]
  obtain ⟨-, -, ends, once⟩ := walks derived derivedPresent
  refine ⟨made, ends, once, ?_, ?_⟩
  · refine subclasses base basePresent derived derivedPresent rfl (.object derived []) derivedPresent ?_
    exact itself derived derivedPresent
  · refine namesakes base basePresent stranger strangerPresent rfl (fun inherits => ?_) []
    rcases (Class.inherits_iff _ _).mp inherits with same | ⟨parent, extended, -⟩
    · exact absurd same (by simp [base, stranger])
    · cases extended

end Multimethod
