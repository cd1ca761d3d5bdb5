import Multimethod.Proofs.EqualCalls
import Multimethod.Proofs.FieldHistory
import Multimethod.Proofs.PartialEquivalence
import Multimethod.Value.Instance

/-!
Instances and what has been done to their fields. An instance keeps its class for good, and its fields are
settled by their history. Equality and documents see what stands under each key and not the order of the
keys (`object_equal_iff`, `object_toJson_iff`). `instances_follow_history` puts this together.
-/
namespace Multimethod

/-- Fields that hold the very same things under each key are related as they are to themselves. -/
theorem Fields.Alike.same {α : Type} {related : α → α → Prop} {fields others : Fields α}
    (itself : Alike related fields fields) (same : ∀ key, fields.get? key = others.get? key) :
    Alike related fields others :=
  fun key => same key ▸ itself key

namespace Value

/-- Instances are equal if their classes are and their fields hold equal values. -/
theorem object_equal_iff {c d : Class} {fields others : Fields Value} (distinct : fields.Distinct)
    (otherDistinct : others.Distinct) : object c fields == object d others ↔
      c == d ∧ Fields.Alike (fun v w => v == w) fields others := by
  rw [object_equal, Bool.and_eq_true, hash_equal, fieldsEqual_iff distinct otherDistinct]

/-- Instances have one document if their fields hold values of one document each. -/
theorem object_toJson_iff {c d : Class} {fields others : Fields Value} (distinct : fields.Distinct)
    (otherDistinct : others.Distinct) : (object c fields).toJson = (object d others).toJson ↔
      Fields.Alike (fun v w => v.toJson = w.toJson) fields others := by
  rw [toJson_object, toJson_object]
  refine ⟨fun same => ?_, fun alike => hash_toJson_congr alike distinct otherDistinct⟩
  rw [toJson_hash, toJson_hash] at same
  refine (Fields.alike_rendered_iff toJson).mpr fun key => ?_
  rw [← Json.get?_sorted_items toJson distinct, ← Json.get?_sorted_items toJson otherDistinct,
    Json.object.inj same]

end Value

namespace Instance

open Fields (Change)

/-- The instance after one change to its fields. A field is set in one way, be it while an instance is put
together or later among its fields. -/
def change (self : Instance) : Change Value → Instance
  | .set key value => self.set key value
  | .remove key => self.remove key

/-- What changes in turn make of a new instance of a class. -/
def after (cls : Class) (changes : List (Change Value)) : Instance :=
  changes.foldl change (new cls)

private theorem change_eq (self : Instance) (last : Change Value) :
    self.change last = ⟨self.cls, self.fields.change last⟩ := by
  cases last <;> rfl

/-- Changes reach the fields of an instance and nothing else. -/
theorem after_eq (cls : Class) (changes : List (Change Value)) :
    after cls changes = ⟨cls, Fields.after changes⟩ := by
  induction changes using List.reverseRecOn with
  | nil => rfl
  | append_singleton changes last ih =>
    rw [after, List.foldl_concat, ← after, ih, change_eq, Fields.after_concat]

/-- What stands in a field was stored by some change. -/
theorem stored_of_mem {cls : Class} {changes : List (Change Value)} {value : Value}
    (among : value ∈ (after cls changes).fields.map Prod.snd) : ∃ key, .set key value ∈ changes := by
  rw [after_eq] at among
  obtain ⟨⟨key, held⟩, standing, rfl⟩ := List.mem_map.mp among
  have found := Fields.get?_of_mem (Fields.distinct_after changes) standing
  obtain ⟨before, rest, rfl, -⟩ := (Fields.get?_after_iff changes key held).mp found
  exact ⟨key, List.mem_append_right _ List.mem_cons_self⟩

/-- An instance is as well formed as what is stored in it. -/
theorem after_wellFormed (cls : Class) {changes : List (Change Value)}
    (sound : ∀ key value, .set key value ∈ changes → value.WellFormed) :
    (after cls changes).toValue.WellFormed := by
  rw [toValue, Value.WellFormed, Value.fieldsWellFormed_iff]
  refine ⟨after_eq cls changes ▸ Fields.distinct_after changes, fun value among => ?_⟩
  obtain ⟨key, stored⟩ := stored_of_mem among
  exact sound key value stored

/-- After any changes the keys of an instance stand in the order in which they came in to stay, each
with what was stored there last. Equality and documents of instances see what stands under each key, and
not the order. -/
theorem instances_follow_history (cls : Class) (changes : List (Change Value)) :
    let self := after cls changes
    self.cls = cls ∧ self.fields.keys.Nodup ∧
    (∀ key, key ∈ self.fields.keys ↔ ∃! position, Fields.EntersAt changes key position) ∧
    self.fields.keys.Pairwise (Fields.ByEntry changes) ∧
    (∀ key value, self.get? key = some value ↔ Fields.LastSet changes key value) ∧
    (∀ key, self.get? key = none ↔ Fields.Gone changes key) ∧
    ∀ (otherCls : Class) (others : List (Change Value)),
      let other := after otherCls others
      (self.toValue == other.toValue ↔
        cls == otherCls ∧ Fields.Alike (fun v w => v == w) self.fields other.fields) ∧
      (self.toValue.toJson = other.toValue.toJson ↔
        Fields.Alike (fun v w => v.toJson = w.toJson) self.fields other.fields) ∧
      (cls == otherCls → (∀ key, self.get? key = other.get? key) →
        self.toValue.toJson = other.toValue.toJson ∧
        ((∀ key value, .set key value ∈ changes → value.WellFormed) →
          ¬ Value.Within (.number .nan) self.toValue → self.toValue == other.toValue)) ∧
      ∀ (supply : Supply) (handles : Handles), Handles.Made supply handles → cls == otherCls →
        Fields.Alike handles.Equal self.fields other.fields →
          self.toValue == other.toValue ∧ self.toValue.toJson = other.toValue.toJson := by
  simp only [after_eq, true_and]
  have distinct := Fields.distinct_after changes
  refine ⟨distinct, Fields.entry_of_key changes, Fields.keys_byEntry changes,
    Fields.get?_after_iff changes, Fields.get?_after_none_iff changes, fun otherCls others => ?_⟩
  have otherDistinct := Fields.distinct_after others
  have equal := Value.object_equal_iff (c := cls) (d := otherCls) distinct otherDistinct
  have documents := Value.object_toJson_iff (c := cls) (d := otherCls) distinct otherDistinct
  refine ⟨equal, documents, fun classes same => ⟨documents.mpr ?_, fun sound defined => ?_⟩,
    fun supply handles program classes alike => ⟨equal.mpr ⟨classes, ?_⟩, documents.mpr ?_⟩⟩
  -- What the very same values are to each other, each is to itself; only equality can fail there.
  · have itself := (Value.object_toJson_iff (c := cls) (d := cls) distinct distinct).mp rfl
    exact itself.same same
  · have wellFormed := after_wellFormed cls sound
    rw [after_eq] at wellFormed
    have itself := (Value.equal_self_iff wellFormed).mpr defined
    exact equal.mpr ⟨classes, ((Value.object_equal_iff distinct distinct).mp itself).2.same same⟩
  · exact alike.imp fun _ _ _ _ pair => pair.equal
  · exact alike.imp fun _ _ _ _ pair => Value.toJson_congr program pair

/-- Three instances of a class: a field of the first was stored in twice, a field of the second was dropped
and came back behind the other, and the third has zero with the other sign. They are equal and have one
document. -/
theorem moved_field_not_seen :
    let point := Class.root 0 "Point"
    let mark : Symbol := ⟨1, some "mark"⟩
    let handles : Handles := ⟨[mark], [], [point]⟩
    let zero (negative : Bool) := Value.number (.finite (.zero negative))
    let overwritten : List (Change Value) :=
      [.set "x" .null, .set "y" (.symbol mark), .set "x" (zero false)]
    let moved : List (Change Value) := [.set "x" (zero false), .set "y" .null, .remove "x",
      .set "y" (.symbol mark), .set "x" (zero false)]
    let signed : List (Change Value) := [.set "y" (.symbol mark), .set "x" (zero true)]
    let first := after point overwritten
    let second := after point moved
    let third := after point signed
    first.fields.keys = ["x", "y"] ∧ second.fields.keys = ["y", "x"] ∧
      (∀ key, first.get? key = second.get? key) ∧ ¬ Value.Within (.number .nan) first.toValue ∧
      first.toValue == second.toValue ∧ first.toValue.toJson = second.toValue.toJson ∧
      Handles.Made ⟨2⟩ handles ∧ Fields.Alike handles.Equal first.fields third.fields ∧
      first.toValue == third.toValue ∧ first.toValue.toJson = third.toValue.toJson := by
  intro point mark handles zero overwritten moved signed first second third
  obtain ⟨-, distinct, -, -, -, -, twins⟩ := instances_follow_history point overwritten
  have same : ∀ key, first.get? key = second.get? key :=
    Fields.get?_perm distinct (List.Perm.swap ("y", Value.symbol mark) ("x", zero false) [])
  have sound : ∀ key value, .set key value ∈ overwritten → value.WellFormed := by
    intro key value among
    simp only [overwritten, List.mem_cons, Change.set.injEq, List.not_mem_nil, or_false] at among
    rcases among with ⟨-, rfl⟩ | ⟨-, rfl⟩ | ⟨-, rfl⟩ <;> exact Value.wellFormed_leaf rfl
  have defined : ¬ Value.Within (.number .nan) first.toValue :=
    (Value.equal_self_iff (after_wellFormed point sound)).mp (by decide)
  have made : Handles.Made ⟨2⟩ handles :=
    .symbol (.cls .nothing "Point" none fun _ none => absurd none (Option.not_mem_none _)) (some "mark")
  have number : ∀ negative, handles.Gives (zero negative) := fun _ => Handles.gives_leaf rfl trivial
  have symbol : handles.Gives (.symbol mark) := Handles.gives_leaf rfl List.mem_cons_self
  have given : ∀ value ∈ first.fields.map Prod.snd, handles.Gives value :=
    List.forall_mem_cons.mpr ⟨number false, List.forall_mem_singleton.mpr symbol⟩
  have thirdGiven : ∀ value ∈ third.fields.map Prod.snd, handles.Gives value :=
    List.forall_mem_cons.mpr ⟨symbol, List.forall_mem_singleton.mpr (number true)⟩
  have alike : Fields.Alike handles.Equal first.fields third.fields := by
    have equal := ((twins point signed).1.mp (by decide)).2
    exact equal.imp fun value among other present pair =>
      ⟨given value among, thirdGiven other present, pair⟩
  obtain ⟨-, -, held, -⟩ := twins point moved
  obtain ⟨document, equal⟩ := held (by decide) same
  obtain ⟨-, -, -, program⟩ := twins point signed
  exact ⟨rfl, rfl, same, defined, equal sound defined, document, made, alike,
    program _ _ made (by decide) alike⟩

end Instance

end Multimethod
