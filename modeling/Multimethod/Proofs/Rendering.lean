import Multimethod.Proofs.Equality
import Multimethod.Proofs.ExactIntegers
import Multimethod.Value.Json

/-!
Values and their documents. Plain data comes back from its document, up to the order of fields and the
sign of zero, and nothing else does. A document that a value was rendered to is rendered again just as it
was, whatever the value: rendering loses what it loses at the first time (`documents_round_trip`).
-/
namespace Multimethod

/-! ### Numbers -/

namespace Double

theorem toJson_exact {x : Finite} {n : Int} (exact : x.toExactInt? = some n) :
    (finite x).toJson = .number (.int n) := by
  simp only [toJson, exact]

private theorem toJson_inexact {x : Finite} (inexact : x.toExactInt? = none) :
    (finite x).toJson = .number (.float x) := by
  simp only [toJson, inexact]

/-- Equal numbers have the same document. -/
theorem toJson_congr {x y : Double} (equal : x == y) : x.toJson = y.toJson := by
  rw [equal_iff] at equal
  cases equal with
  | infinite => rfl
  | finite => rfl
  | zero left right =>
    rw [toJson_exact ((toExactInt?_zero_iff _).mpr left),
      toJson_exact ((toExactInt?_zero_iff _).mpr right)]

/-- The document of a finite number is the document of an equal number. -/
theorem toJson_finite (x : Finite) :
    ∃ n : Json.Number, (finite x).toJson = .number n ∧ n.toDouble == finite x ∧
      n.toDouble.toJson = .number n := by
  cases exact : x.toExactInt? with
  | none => exact ⟨.float x, toJson_inexact exact, equal_iff.mpr .finite, toJson_inexact exact⟩
  | some n =>
    obtain ⟨y, rounded, same⟩ := exact_ofInt ((toExactInt?_iff x n).mp exact).2
    refine ⟨.int n, toJson_exact exact, ?_, ?_⟩
    · by_cases zero : n = 0
      · subst zero
        rw [Json.Number.toDouble, rounded, equal_iff]
        exact .zero ((toExactInt?_zero_iff y).mp same) ((toExactInt?_zero_iff x).mp exact)
      · rw [Json.Number.toDouble, ofInt_of_exact exact zero, equal_iff]
        exact .finite
    · rw [Json.Number.toDouble, rounded, toJson_exact same]

end Double

namespace Value

open Json (sortMembers)

/-! ### Fields -/

theorem fieldsToJson_eq_mapItems (fields : Fields Value) : fieldsToJson fields = fields.mapItems toJson :=
  fieldsToJson_eq_map fields

private theorem fieldsOfJson_eq_mapItems (members : Fields Json) :
    fieldsOfJson members = members.mapItems ofJson :=
  fieldsOfJson_eq_map members

theorem toJson_hash (fields : Fields Value) :
    (hash fields).toJson = .object (Fields.mapItems toJson (sortMembers fields)) := by
  rw [toJson, Json.ofMembers, fieldsToJson_eq_mapItems, Json.sortMembers_mapItems]

theorem toJson_object (c : Class) (fields : Fields Value) :
    (object c fields).toJson = (hash fields).toJson := by
  simp only [toJson]

theorem toJson_array (items : List Value) : (array items).toJson = .array (items.map toJson) := by
  rw [toJson, itemsToJson_eq_map]

private theorem ofJson_array (items : List Json) : ofJson (.array items) = .array (items.map ofJson) := by
  rw [ofJson, itemsOfJson_eq_map]

/-- A hash is read back as its fields in ascending order. -/
theorem reread_hash (fields : Fields Value) : ofJson (hash fields).toJson =
    .hash (Fields.mapItems (fun item => ofJson item.toJson) (sortMembers fields)) := by
  rw [toJson_hash, ofJson, fieldsOfJson_eq_mapItems, Fields.mapItems_mapItems]
  rfl

private theorem mem_parts_of_sorted {fields : Fields Value} {part : Value}
    (among : part ∈ (sortMembers fields).map Prod.snd) : part ∈ (hash fields).parts := by
  obtain ⟨field, present, rfl⟩ := List.mem_map.mp among
  exact mem_parts_hash.mpr ⟨field.1, Json.mem_sortMembers present⟩

private theorem distinct_sorted (change : Value → Value) (fields : Fields Value) :
    Fields.Distinct (Fields.mapItems change (sortMembers fields)) := by
  rw [Fields.Distinct, Fields.keys_mapItems]
  exact Json.distinct_of_ascending (Json.ascending_sortMembers fields)

/-! ### Rendering again -/

private theorem rerendered_hash {fields : Fields Value}
    (each : ∀ part ∈ (hash fields).parts, (ofJson part.toJson).toJson = part.toJson) :
    (ofJson (hash fields).toJson).toJson = (hash fields).toJson := by
  rw [reread_hash, toJson_hash, toJson_hash, Json.sortMembers_mapItems,
    Json.sortMembers_of_ascending (Json.ascending_sortMembers fields), Fields.mapItems_mapItems]
  exact congrArg Json.object (Fields.mapItems_congr fun part among => each part (mem_parts_of_sorted among))

/-- A document of a value is the document of what it is read back as. -/
theorem rerendered (v : Value) : (ofJson v.toJson).toJson = v.toJson := by
  induction v using parts_induction with
  | step v each =>
    cases v with
    | number x =>
      cases x with
      | finite x =>
        obtain ⟨n, written, -, again⟩ := Double.toJson_finite x
        rw [toJson, written, ofJson, toJson, again]
      | _ => rfl
    | array items =>
      rw [toJson_array, ofJson_array, toJson_array, List.map_map, List.map_map]
      exact congrArg Json.array (List.map_congr_left each)
    | hash fields => exact rerendered_hash each
    | object c fields =>
      rw [toJson_object]
      exact rerendered_hash each
    | function f =>
      rw [toJson]
      cases f.name <;> rfl
    | _ => simp only [toJson, ofJson]

private theorem reread_hash_wellFormed {fields : Fields Value}
    (each : ∀ part ∈ (hash fields).parts, (ofJson part.toJson).WellFormed) :
    (ofJson (hash fields).toJson).WellFormed := by
  rw [reread_hash, WellFormed, fieldsWellFormed_iff, Fields.items_mapItems]
  refine ⟨distinct_sorted _ _, fun part among => ?_⟩
  obtain ⟨item, present, rfl⟩ := List.mem_map.mp among
  exact each item (mem_parts_of_sorted present)

/-- The keys of what is read back are distinct. -/
theorem reread_wellFormed (v : Value) : (ofJson v.toJson).WellFormed := by
  induction v using parts_induction with
  | step v each =>
    cases v with
    | number x =>
      cases x with
      | finite x =>
        obtain ⟨n, written, -, -⟩ := Double.toJson_finite x
        simp only [toJson, written, ofJson, WellFormed]
      | _ => trivial
    | array items =>
      rw [toJson_array, ofJson_array, List.map_map, WellFormed, allWellFormed_iff]
      intro part among
      obtain ⟨item, present, rfl⟩ := List.mem_map.mp among
      exact each item present
    | hash fields => exact reread_hash_wellFormed each
    | object c fields =>
      rw [toJson_object]
      exact reread_hash_wellFormed each
    | function f =>
      rw [toJson]
      cases f.name <;> trivial
    | _ => simp only [toJson, ofJson, WellFormed]

/-! ### Reading back -/

/-- Plain data, as far as it shows at the top: no handles, no instances, no integers of any size, and no
number that is not finite. -/
def isData : Value → Bool
  | .null => true
  | .bool _ => true
  | .number (.finite _) => true
  | .string _ => true
  | .array _ => true
  | .hash _ => true
  | _ => false

private theorem everywhere_data_leaf {v : Value} (leaf : v.parts = []) :
    v.Everywhere (·.isData) ↔ v.isData := by
  rw [everywhere_iff, leaf]
  simp

private theorem reread_array_iff (items : List Value) :
    ofJson (array items).toJson == array items ↔ ∀ part ∈ items, ofJson part.toJson == part := by
  rw [toJson_array, ofJson_array, List.map_map, beq_def, Value.beq, itemsEqual_iff,
    List.forall₂_map_left_iff, List.forall₂_same]
  rfl

private theorem reread_hash_iff {fields : Fields Value} (distinct : fields.Distinct) :
    ofJson (hash fields).toJson == hash fields ↔
      ∀ part ∈ (hash fields).parts, ofJson part.toJson == part := by
  have reread := Json.get?_sorted_items (fun item => ofJson item.toJson) distinct
  rw [reread_hash, beq_def, Value.beq, fieldsEqual_iff (distinct_sorted _ _) distinct]
  constructor
  · intro alike part among
    obtain ⟨key, present⟩ := mem_parts_hash.mp among
    have found := Fields.get?_of_mem distinct present
    have rel := alike key
    rw [reread, found] at rel
    cases rel with
    | some equal => exact equal
  · intro each key
    rw [reread]
    cases found : Fields.get? fields key with
    | none => exact .none
    | some item => exact .some (each item (mem_parts_hash.mpr ⟨key, Fields.mem_of_get? found⟩))

/-- A value is read back from its document if it is plain data throughout, and not otherwise. -/
theorem reread_iff {v : Value} (wellFormed : v.WellFormed) :
    ofJson v.toJson == v ↔ v.Everywhere (·.isData) := by
  induction v using parts_induction with
  | step v ih =>
    have each : (∀ part ∈ v.parts, ofJson part.toJson == part) ↔
        ∀ part ∈ v.parts, part.Everywhere (·.isData) :=
      forall₂_congr fun part among => ih part among (wellFormed.part among)
    cases v with
    | array items =>
      rw [reread_array_iff, everywhere_iff]
      exact each.trans (and_iff_right rfl).symm
    | hash fields =>
      rw [reread_hash_iff wellFormed.hash_distinct, everywhere_iff]
      exact each.trans (and_iff_right rfl).symm
    | object c fields =>
      rw [everywhere_iff, toJson_object, reread_hash]
      exact iff_of_false Bool.false_ne_true fun both => Bool.false_ne_true both.1
    | number x =>
      rw [everywhere_data_leaf rfl]
      cases x with
      | finite x =>
        obtain ⟨n, written, equal, -⟩ := Double.toJson_finite x
        rw [toJson, written, ofJson]
        exact iff_of_true equal rfl
      | _ => exact iff_of_false Bool.false_ne_true Bool.false_ne_true
    | function f =>
      rw [everywhere_data_leaf rfl, toJson]
      cases f.name <;> exact iff_of_false Bool.false_ne_true Bool.false_ne_true
    | null => exact iff_of_true rfl ((everywhere_data_leaf rfl).mpr rfl)
    | bool b => exact iff_of_true (beq_self_eq_true b) ((everywhere_data_leaf rfl).mpr rfl)
    | string text => exact iff_of_true (beq_self_eq_true text) ((everywhere_data_leaf rfl).mpr rfl)
    | _ =>
      rw [everywhere_data_leaf rfl]
      exact iff_of_false Bool.false_ne_true Bool.false_ne_true

/-- A value comes back from its document, as an equal value, exactly if nothing in it at any depth is other
than null, a truth value, a finite number, a text, an array or a hash. What comes back has the document
that it came from, number for number and member for member, whatever the value was. -/
theorem documents_round_trip (v : Value) :
    (v.WellFormed → (ofJson v.toJson == v ↔ v.Everywhere (·.isData))) ∧
    (ofJson v.toJson).toJson = v.toJson :=
  ⟨reread_iff, rerendered v⟩

/-- A hash comes back although its document has the fields in another order and zero without its sign. -/
theorem signed_zero_comes_back :
    let v := hash [("b", .number (.finite (.zero true))), ("a", .array [.null])]
    v.WellFormed ∧ ofJson v.toJson == v := by
  intro v
  have wellFormed : v.WellFormed := by
    simp [v, WellFormed, FieldsWellFormed, AllWellFormed, Fields.Distinct, Fields.keys]
  have zero : (number (.finite (.zero true))).Everywhere (·.isData) := (everywhere_data_leaf rfl).mpr rfl
  have nulls : (array [null]).Everywhere (·.isData) := by
    rw [everywhere_iff, parts, List.forall_mem_singleton]
    exact ⟨rfl, (everywhere_data_leaf rfl).mpr rfl⟩
  have plain : v.Everywhere (·.isData) := by
    rw [everywhere_iff]
    exact ⟨rfl, List.forall_mem_cons.mpr ⟨zero, List.forall_mem_singleton.mpr nulls⟩⟩
  exact ⟨wellFormed, ((documents_round_trip v).1 wellFormed).mpr plain⟩

end Value

end Multimethod
