import Multimethod.Proofs.Equality
import Multimethod.Proofs.Handles

/-!
What equality of values is and what it is not. It goes both ways and from one value to the next, but a value
equals itself only if no undefined number stands anywhere within it (`equal_self_iff`). The order of fields
does not matter (`hash_equal_perm`), the class of an instance does, and of a handle its identity is all that
counts. `equality_laws` puts this together.
-/
namespace Multimethod

/-! ### Fields -/

namespace Fields

variable {α : Type}

private theorem get?_eq_some_iff {fields : Fields α} (distinct : fields.Distinct) {key : String} {item : α} :
    fields.get? key = some item ↔ (key, item) ∈ fields :=
  ⟨mem_of_get?, get?_of_mem distinct⟩

private theorem Distinct.perm {fields others : Fields α} (distinct : fields.Distinct)
    (same : fields.Perm others) : others.Distinct :=
  (same.map Prod.fst).nodup_iff.mp distinct

/-- What stands under a key does not depend on the order of the fields. -/
theorem get?_perm {fields others : Fields α} (distinct : fields.Distinct) (same : fields.Perm others)
    (key : String) : fields.get? key = others.get? key := by
  refine Option.ext fun item => ?_
  rw [get?_eq_some_iff distinct, get?_eq_some_iff (distinct.perm same), same.mem_iff]

/-- Fields are related to themselves if each of their items is. -/
theorem alike_self_iff {related : α → α → Prop} {fields : Fields α} (distinct : fields.Distinct) :
    Alike related fields fields ↔ ∀ item ∈ fields.map Prod.snd, related item item := by
  constructor
  · intro alike item among
    obtain ⟨⟨key, held⟩, standing, rfl⟩ := List.mem_map.mp among
    have found := get?_of_mem distinct standing
    obtain ⟨other, again, pair⟩ := alike.found found
    rw [found] at again
    cases again
    exact pair
  · intro each key
    cases found : fields.get? key with
    | none => exact .none
    | some item => exact .some (each item (mem_items found))

end Fields

theorem Double.equal_self_iff (x : Double) : x == x ↔ x ≠ .nan := by
  rw [equal_iff]
  cases x with
  | nan => exact ⟨fun alike => (nomatch alike), fun number => absurd rfl number⟩
  | infinite negative => exact ⟨fun _ => Double.noConfusion, fun _ => .infinite⟩
  | finite x => exact ⟨fun _ => Double.noConfusion, fun _ => .finite⟩

namespace Value

/-! ### A value and itself -/

private theorem equal_self_leaf {v : Value} (leaf : v.parts = []) (defined : v ≠ .number .nan)
    (alike : v.Matches v) : v.Matches v ↔ v ≠ .number .nan ∧ ∀ part ∈ v.parts, part == part :=
  ⟨fun _ => ⟨defined, fun _ among => absurd (leaf ▸ among) List.not_mem_nil⟩, fun _ => alike⟩

/-- A value equals itself if it is not the undefined number and all of its parts equal themselves. -/
theorem equal_self_step {v : Value} (wellFormed : v.WellFormed) :
    v == v ↔ v ≠ .number .nan ∧ ∀ part ∈ v.parts, part == part := by
  rw [equal_iff wellFormed wellFormed]
  cases v with
  | null => exact equal_self_leaf rfl Value.noConfusion .null
  | bool b => exact equal_self_leaf rfl Value.noConfusion .bool
  | bigint n => exact equal_self_leaf rfl Value.noConfusion .bigint
  | string text => exact equal_self_leaf rfl Value.noConfusion .string
  | regexp pattern => exact equal_self_leaf rfl Value.noConfusion .regexp
  | symbol s => exact equal_self_leaf rfl Value.noConfusion (.symbol (Symbol.equal_iff.mpr rfl))
  | function f => exact equal_self_leaf rfl Value.noConfusion (.function (Function.equal_iff.mpr rfl))
  | cls c => exact equal_self_leaf rfl Value.noConfusion (.cls (Class.equal_iff.mpr rfl))
  | number x =>
    by_cases undefined : x = .nan
    · subst undefined
      refine ⟨fun alike => ?_, fun ⟨defined, _⟩ => absurd rfl defined⟩
      cases alike with
      | number equal => exact absurd rfl ((Double.equal_self_iff .nan).mp equal)
    · refine equal_self_leaf rfl (fun same => undefined ?_) (.number (x.equal_self_iff.mpr undefined))
      exact Value.number.inj same
  | array items =>
    constructor
    · intro alike
      cases alike with
      | array equal => exact ⟨Value.noConfusion, List.forall₂_same.mp equal⟩
    · exact fun ⟨_, each⟩ => .array (List.forall₂_same.mpr each)
  | hash fields =>
    have each : Fields.Alike (fun v w : Value => v == w) fields fields ↔ _ :=
      Fields.alike_self_iff wellFormed.hash_distinct
    constructor
    · intro alike
      cases alike with
      | hash alike => exact ⟨Value.noConfusion, each.mp alike⟩
    · exact fun ⟨_, equal⟩ => .hash (each.mpr equal)
  | object c fields =>
    have each : Fields.Alike (fun v w : Value => v == w) fields fields ↔ _ :=
      Fields.alike_self_iff wellFormed.object_distinct
    constructor
    · intro alike
      cases alike with
      | object _ alike => exact ⟨Value.noConfusion, each.mp alike⟩
    · exact fun ⟨_, equal⟩ => .object (Class.equal_iff.mpr rfl) (each.mpr equal)

/-- A value equals itself exactly if no undefined number stands anywhere within it. -/
theorem equal_self_iff {v : Value} (wellFormed : v.WellFormed) :
    v == v ↔ ¬ Within (.number .nan) v := by
  have everywhere : v == v ↔ v.Everywhere (· ≠ .number .nan) := by
    induction v using parts_induction with
    | step v ih =>
      rw [equal_self_step wellFormed, everywhere_iff]
      refine and_congr_right fun _ => forall₂_congr fun part among => ?_
      exact ih part among (wellFormed.part among)
  rw [everywhere]
  exact ⟨fun all within => all _ within rfl, fun none inner within same => none (same ▸ within)⟩

/-! ### Fields and instances -/

theorem hash_equal (fields others : Fields Value) : (hash fields == hash others) =
    (fields.length == others.length && fieldsWithin fields others) := by
  rw [beq_def, Value.beq]

theorem object_equal (c d : Class) (fields others : Fields Value) :
    (object c fields == object d others) = (c == d && (hash fields == hash others)) := by
  rw [beq_def, Value.beq, hash_equal]

/-- The order of fields does not matter on either side. -/
theorem hash_equal_perm {fields reordered others otherReordered : Fields Value}
    (same : fields.Perm reordered) (otherSame : others.Perm otherReordered) (distinct : others.Distinct) :
    (hash fields == hash others) = (hash reordered == hash otherReordered) := by
  have within : fieldsWithin fields others = fieldsWithin reordered otherReordered := by
    rw [Bool.eq_iff_iff, fieldsWithin_iff, fieldsWithin_iff]
    simp only [same.mem_iff, Fields.get?_perm distinct otherSame]
  rw [hash_equal, hash_equal, same.length_eq, otherSame.length_eq, within]

private theorem object_equal_perm {fields reordered others otherReordered : Fields Value}
    (same : fields.Perm reordered) (otherSame : others.Perm otherReordered) (distinct : others.Distinct)
    (c d : Class) : (object c fields == object d others) =
      (object c reordered == object d otherReordered) := by
  rw [object_equal, object_equal, hash_equal_perm same otherSame distinct]

private theorem object_unequal_hash (c : Class) (fields others : Fields Value) :
    (object c fields == hash others) = false ∧ (hash others == object c fields) = false :=
  ⟨rfl, rfl⟩

end Value

/-! ### Handles -/

/-- Handles that have been made are compared by what they are: two of them are equal only if they are one. -/
theorem Identified.equal_iff {α : Type} [BEq α] {identity : α → Nat} {supply : Supply} {made : List α}
    (identified : Identified identity supply made) (compared : ∀ x y, x == y ↔ identity x = identity y)
    {thing other : α} (among : thing ∈ made) (present : other ∈ made) : thing == other ↔ thing = other := by
  rw [compared]
  exact ⟨identified.unique thing among other present, congrArg identity⟩

/-- Equality of values is symmetric and transitive, and a value equals itself exactly if no undefined
number stands anywhere within it. Fields may stand in any order, and handles of one program are equal
only to themselves. -/
theorem equality_laws :
    (∀ v w : Value, v.WellFormed → w.WellFormed → v == w → w == v) ∧
    (∀ u v w : Value, u.WellFormed → v.WellFormed → w.WellFormed → u == v → v == w → u == w) ∧
    (∀ v : Value, v.WellFormed → (v == v ↔ ¬ Value.Within (.number .nan) v)) ∧
    (∀ fields reordered others otherReordered : Fields Value,
      fields.Perm reordered → others.Perm otherReordered → others.Distinct →
        (Value.hash fields == .hash others) = (Value.hash reordered == .hash otherReordered) ∧
        ∀ c d, (Value.object c fields == .object d others) =
          (Value.object c reordered == .object d otherReordered)) ∧
    (∀ (c : Class) (fields others : Fields Value), (Value.object c fields == .hash others) = false ∧
      (Value.hash others == .object c fields) = false) ∧
    ∀ (supply : Supply) (handles : Handles), Handles.Made supply handles →
      (∀ s ∈ handles.symbols, ∀ t ∈ handles.symbols, Value.symbol s == .symbol t ↔ s = t) ∧
      (∀ f ∈ handles.functions, ∀ g ∈ handles.functions, Value.function f == .function g ↔ f = g) ∧
      ∀ c ∈ handles.classes, ∀ d ∈ handles.classes, (Value.cls c == .cls d ↔ c = d) ∧
        ∀ fields others : Fields Value, Value.object c fields == .object d others → c = d := by
  refine ⟨fun v w wellFormed otherWellFormed equal => Value.equal_symm equal wellFormed otherWellFormed,
    fun u v w first second third one two => Value.equal_trans one two first second third,
    fun v => Value.equal_self_iff,
    fun fields reordered others otherReordered same otherSame distinct =>
      ⟨Value.hash_equal_perm same otherSame distinct, Value.object_equal_perm same otherSame distinct⟩,
    Value.object_unequal_hash, fun supply handles made => ?_⟩
  obtain ⟨symbols, functions, classes⟩ := made.unique
  refine ⟨fun s among t present => symbols.equal_iff (fun _ _ => Symbol.equal_iff) among present,
    fun f among g present => functions.equal_iff (fun _ _ => Function.equal_iff) among present,
    fun c among d present => ?_⟩
  have one := classes.equal_iff (fun _ _ => Class.equal_iff) among present
  refine ⟨one, fun fields others equal => ?_⟩
  rw [Value.object_equal, Bool.and_eq_true] at equal
  exact one.mp equal.1

/-- An array that has the undefined number in a hash of it does not equal itself, and instances of two
classes of one name are not equal, though each equals itself with its fields in another order. -/
theorem equality_of_namesakes :
    let undefined := Value.array [.hash [("x", .number .nan)]]
    let first := Class.root 0 "Point"
    let second := Class.root 1 "Point"
    let fields : Fields Value := [("x", .null), ("y", .string "here")]
    undefined.WellFormed ∧ ¬ undefined == undefined ∧
      Handles.Made ⟨2⟩ ⟨[], [], [second, first]⟩ ∧
      (Value.object first fields == .object first fields.reverse) = true ∧
      (Value.object first fields == .object second fields.reverse) = false := by
  intro undefined first second fields
  obtain ⟨-, -, itself, reordered, -, handles⟩ := equality_laws
  have wellFormed : undefined.WellFormed := by
    simp [undefined, Value.WellFormed, Value.AllWellFormed, Value.FieldsWellFormed, Fields.Distinct,
      Fields.keys]
  have distinct : fields.Distinct := by simp [fields, Fields.Distinct, Fields.keys]
  have within : Value.Within (.number .nan) undefined :=
    .part (List.mem_singleton.mpr rfl) (.part (List.mem_singleton.mpr rfl) .itself)
  have rootless : ∀ handles : Handles, ∀ c ∈ (none : Option Class), c ∈ handles.classes :=
    fun _ _ none => absurd none (Option.not_mem_none _)
  have made : Handles.Made ⟨2⟩ ⟨[], [], [second, first]⟩ :=
    .cls (.cls .nothing "Point" none (rootless _)) "Point" none (rootless _)
  have apart := ((handles _ _ made).2.2 first (by simp) second (by simp)).2 fields fields.reverse
  refine ⟨wellFormed, fun equal => (itself undefined wellFormed).mp equal within, made, ?_, ?_⟩
  · have permuted := (List.reverse_perm fields).symm
    rw [← (reordered fields fields fields fields.reverse (.refl _) permuted distinct).2]
    rfl
  · exact Bool.eq_false_iff.mpr fun equal => absurd (apart equal) (by simp [first, second])

end Multimethod
