import Multimethod.Proofs.EqualCalls
import Multimethod.Proofs.PrintedText

/-!
Values and their texts. Data whose numbers are small integers is what the text of its document holds, up to
the order of fields and the sign of zero, as long as it is not nested too deep for reading; and texts tell
such values apart exactly as equality does (`texts_round_trip`).
-/
namespace Multimethod.Value

open Json (sortMembers)

/-! ### Depth -/

mutual

/-- How deep arrays and fields are nested in a value. Empty ones count. -/
def depth : Value → Nat
  | .array items => depthOfItems items + 1
  | .hash fields => depthOfFields fields + 1
  | .object _ fields => depthOfFields fields + 1
  | _ => 0

/-- The greatest depth of several values. -/
def depthOfItems : List Value → Nat
  | [] => 0
  | item :: rest => max item.depth (depthOfItems rest)

/-- The greatest depth of what several fields hold. -/
def depthOfFields : List (String × Value) → Nat
  | [] => 0
  | (_, item) :: rest => max item.depth (depthOfFields rest)

end

private theorem depthOfFields_le_iff {fields : List (String × Value)} {budget : Nat} :
    depthOfFields fields ≤ budget ↔ ∀ field ∈ fields, field.2.depth ≤ budget := by
  induction fields with
  | nil => simp [depthOfFields]
  | cons field rest ih => rw [depthOfFields, Nat.max_le, ih, List.forall_mem_cons]

/-- Sorting fields with distinct keys leaves none of them out. -/
theorem depthOfMembers_sorted {fields : Fields Value} (distinct : fields.Distinct)
    (each : ∀ part ∈ fields.map Prod.snd, part.toJson.depth = part.depth) :
    Json.depthOfMembers (Fields.mapItems toJson (sortMembers fields)) = depthOfFields fields := by
  refine eq_of_forall_ge_iff fun budget => ?_
  rw [Json.depthOfMembers_le_iff, depthOfFields_le_iff]
  constructor
  · intro shallow field among
    have sorted := (Json.mem_sortMembers_iff distinct).mpr among
    rw [← each field.2 (List.mem_map_of_mem among)]
    exact shallow _ (List.mem_map_of_mem sorted)
  · intro shallow member among
    obtain ⟨field, sorted, rfl⟩ := List.mem_map.mp among
    have present := Json.mem_sortMembers sorted
    exact (each field.2 (List.mem_map_of_mem present)).symm ▸ shallow field present

private theorem depthOfItems_map {items : List Value}
    (each : ∀ item ∈ items, item.toJson.depth = item.depth) :
    Json.depthOfItems (items.map toJson) = depthOfItems items := by
  induction items with
  | nil => rfl
  | cons item rest ih =>
    obtain ⟨here, later⟩ := List.forall_mem_cons.mp each
    rw [List.map_cons, Json.depthOfItems, depthOfItems, here, ih later]

/-- A document is nested as deep as its value. -/
theorem toJson_depth {v : Value} (wellFormed : v.WellFormed) : v.toJson.depth = v.depth := by
  induction v using parts_induction with
  | step v ih =>
    have each : ∀ part ∈ v.parts, part.toJson.depth = part.depth :=
      fun part among => ih part among (wellFormed.part among)
    cases v with
    | number x =>
      cases x with
      | finite x =>
        obtain ⟨n, written, -, -⟩ := Double.toJson_finite x
        rw [toJson, written]
        rfl
      | _ => rfl
    | array items =>
      have items_alike : Json.depthOfItems (items.map toJson) = depthOfItems items := depthOfItems_map each
      rw [toJson_array, Json.depth, depth, items_alike]
    | hash fields =>
      rw [toJson_hash, Json.depth, depth, depthOfMembers_sorted wellFormed.hash_distinct each]
    | object c fields =>
      rw [toJson_object, toJson_hash, Json.depth, depth,
        depthOfMembers_sorted wellFormed.object_distinct each]
    | function f =>
      rw [toJson]
      cases f.name <;> rfl
    | _ => simp only [toJson, Json.depth, depth]

/-! ### Exact data -/

/-- Data that texts keep, as far as it shows at the top: of numbers only the integers that numbers tell
apart. -/
def IsExact : Value → Prop
  | .null => True
  | .bool _ => True
  | .number (.finite x) => ∃ n : Int, x.toInt? = some n ∧ n.natAbs ≤ Double.maxExactInt
  | .string _ => True
  | .array _ => True
  | .hash _ => True
  | _ => False

private theorem isData_of_exact {v : Value} (exact : v.IsExact) : v.isData := by
  cases v with
  | number x =>
    cases x with
    | finite x => rfl
    | _ => cases exact
  | _ => first | rfl | cases exact

/-- Nothing has to be made for exact data. -/
theorem gives_exact (handles : Handles) {v : Value} (wellFormed : v.WellFormed)
    (exact : v.Everywhere IsExact) : handles.Gives v := by
  refine ⟨fun inner within => ?_, wellFormed⟩
  have here := exact inner within
  cases inner <;> trivial

theorem plain_of_exact {v : Value} (exact : v.Everywhere IsExact) : v.toJson.Plain := by
  induction v using parts_induction with
  | step v ih =>
    have each : ∀ part ∈ v.parts, part.toJson.Plain := fun part among => ih part among (exact.part among)
    cases v with
    | null => exact .null
    | bool b => exact .bool
    | number x =>
      cases x with
      | finite x =>
        obtain ⟨n, equals, small⟩ := exact.here
        rw [toJson, Double.toJson_exact ((Double.toExactInt?_iff x n).mpr ⟨equals, small⟩)]
        rw [Double.le_maxExactInt_iff] at small
        have half : Nat.pow 2 53 ≤ Nat.pow 2 63 := by decide
        have whole : Nat.pow 2 53 ≤ Nat.pow 2 64 := by decide
        exact .int (by omega) (by omega)
      | _ => cases exact.here
    | string text => exact .string
    | array items =>
      rw [toJson_array]
      refine .array fun item among => ?_
      obtain ⟨part, present, rfl⟩ := List.mem_map.mp among
      exact each part present
    | hash fields =>
      rw [toJson_hash, ← Json.sortMembers_mapItems]
      refine .object (Json.ascending_sortMembers _) fun member among => ?_
      obtain ⟨field, present, rfl⟩ := List.mem_map.mp (Json.mem_sortMembers among)
      exact each field.2 (List.mem_map_of_mem present)
    | _ => cases exact.here

/-! ### Texts -/

/-- What the text of exact data holds is what is left of a value in its document. -/
theorem parse_text {v : Value} (wellFormed : v.WellFormed) (exact : v.Everywhere IsExact) :
    parse v.toJson.compact =
      if v.depth ≤ 127 then .ok (ofJson v.toJson) else .error (.json .malformed) := by
  unfold parse
  rw [Json.parse_compact (plain_of_exact exact), toJson_depth wellFormed]
  split <;> rfl

/-- Exact data is read back from its document. -/
theorem reread_exact {v : Value} (wellFormed : v.WellFormed) (exact : v.Everywhere IsExact) :
    ofJson v.toJson == v :=
  (reread_iff wellFormed).mpr fun inner within => isData_of_exact (exact inner within)

/-- Exact data that can be read has the text of an equal value and of no other. -/
theorem same_text_iff {v w : Value} (wellFormed : v.WellFormed) (exact : v.Everywhere IsExact)
    (shallow : v.depth ≤ 127) (otherWellFormed : w.WellFormed) (otherExact : w.Everywhere IsExact)
    (otherShallow : w.depth ≤ 127) : v.toJson.compact = w.toJson.compact ↔ v == w := by
  constructor
  · intro same
    have read := parse_text wellFormed exact
    rw [same, parse_text otherWellFormed otherExact, if_pos shallow, if_pos otherShallow] at read
    have common : ofJson w.toJson = ofJson v.toJson := Except.ok.inj read
    have back := reread_exact wellFormed exact
    exact equal_trans (equal_symm back (reread_wellFormed v) wellFormed)
      (common ▸ reread_exact otherWellFormed otherExact) wellFormed (reread_wellFormed v) otherWellFormed
  · intro equal
    have same : Handles.Equal ⟨[], [], []⟩ v w :=
      ⟨gives_exact _ wellFormed exact, gives_exact _ otherWellFormed otherExact, equal⟩
    exact congrArg Json.compact (toJson_congr .nothing same)

/-- Data whose numbers are integers that numbers tell apart is read back from its text as an equal value if
it is nested at most 127 deep; the text of what is nested deeper is refused as no document. Two such values
that can be read have one text exactly if they are equal. -/
theorem texts_round_trip (v : Value) (wellFormed : v.WellFormed) (exact : v.Everywhere IsExact) :
    (v.depth ≤ 127 → ∃ w, parse v.toJson.compact = .ok w ∧ w == v) ∧
    (128 ≤ v.depth → parse v.toJson.compact = .error (.json .malformed)) ∧
    ∀ w : Value, w.WellFormed → w.Everywhere IsExact → v.depth ≤ 127 → w.depth ≤ 127 →
      (v.toJson.compact = w.toJson.compact ↔ v == w) := by
  refine ⟨fun shallow => ?_, fun deep => ?_, fun w otherWellFormed otherExact shallow otherShallow => ?_⟩
  · rw [parse_text wellFormed exact, if_pos shallow]
    exact ⟨_, rfl, reread_exact wellFormed exact⟩
  · rw [parse_text wellFormed exact, if_neg (Nat.not_le.mpr deep)]
  · exact same_text_iff wellFormed exact shallow otherWellFormed otherExact otherShallow

/-- Arrays in one another, each but the innermost with the next as its only item. -/
def nested : Nat → Value
  | 0 => .array []
  | levels + 1 => .array [nested levels]

theorem nested_exact (levels : Nat) : (nested levels).WellFormed ∧ (nested levels).Everywhere IsExact ∧
    (nested levels).depth = levels + 1 := by
  induction levels with
  | zero =>
    refine ⟨wellFormed_leaf rfl, everywhere_iff.mpr ⟨trivial, ?_⟩, rfl⟩
    exact fun part among => absurd among List.not_mem_nil
  | succ levels ih =>
    obtain ⟨wellFormed, exact, deep⟩ := ih
    refine ⟨?_, everywhere_iff.mpr ⟨trivial, List.forall_mem_singleton.mpr exact⟩, ?_⟩
    · rw [nested, WellFormed, allWellFormed_iff]
      exact List.forall_mem_singleton.mpr wellFormed
    · rw [nested, depth, depthOfItems, depthOfItems, deep, Nat.max_zero]

/-- Arrays that are nested 127 deep are read, and one more is one too many; the two zeros have one text. -/
theorem one_array_too_many :
    let zero (negative : Bool) := number (.finite (.zero negative))
    (∃ w, parse (nested 126).toJson.compact = .ok w ∧ w == nested 126) ∧
    parse (nested 127).toJson.compact = .error (.json .malformed) ∧
    (zero true).toJson.compact = (zero false).toJson.compact := by
  intro zero
  have integer : ∀ negative, (zero negative).Everywhere IsExact := by
    intro negative
    refine everywhere_iff.mpr ⟨⟨0, ?_⟩, fun part among => absurd among List.not_mem_nil⟩
    exact (Double.toExactInt?_iff _ 0).mp ((Double.toExactInt?_zero_iff _).mpr rfl)
  have leaf : ∀ negative, (zero negative).WellFormed := fun negative => wellFormed_leaf rfl
  obtain ⟨readable, readableExact, readableDepth⟩ := nested_exact 126
  obtain ⟨deep, deepExact, deepDepth⟩ := nested_exact 127
  refine ⟨(texts_round_trip _ readable readableExact).1 (by omega),
    (texts_round_trip _ deep deepExact).2.1 (by omega), ?_⟩
  have alike := (texts_round_trip (zero true) (leaf true) (integer true)).2.2 (zero false) (leaf false)
    (integer false) (Nat.zero_le _) (Nat.zero_le _)
  exact alike.mpr (by decide)

end Multimethod.Value
