import Mathlib.Data.List.Forall2
import Mathlib.Data.List.Perm.Subperm
import Multimethod.Proofs.Members
import Multimethod.Proofs.Parts

/-!
Equality of values. Two values are equal if they are of one kind and equal part by part, where fields
are compared key by key and in no order: `equal_iff` tells what that takes for each kind. Equality goes
both ways and from one to the next (`equal_symm`, `equal_trans`).
-/
namespace Multimethod

/-! ### Fields -/

namespace Fields

variable {α : Type}

/-- Two lists of fields hold related items under the same keys, in whatever order. -/
def Alike (related : α → α → Prop) (fields others : Fields α) : Prop :=
  ∀ key, Option.Rel related (fields.get? key) (others.get? key)

theorem Alike.found {related : α → α → Prop} {fields others : Fields α}
    (alike : Alike related fields others) {key : String} {item : α}
    (held : fields.get? key = some item) :
    ∃ other, others.get? key = some other ∧ related item other := by
  have rel := alike key
  rw [held] at rel
  generalize others.get? key = found at rel
  cases rel with
  | some pair => exact ⟨_, rfl, pair⟩

theorem Alike.keys {related : α → α → Prop} {fields others : Fields α}
    (alike : Alike related fields others) (key : String) : key ∈ fields.keys ↔ key ∈ others.keys := by
  rw [← not_iff_not, ← get?_none_iff, ← get?_none_iff]
  have rel := alike key
  generalize fields.get? key = found at rel
  generalize others.get? key = other at rel
  cases rel <;> simp

theorem mem_items {fields : Fields α} {key : String} {item : α}
    (found : fields.get? key = some item) : item ∈ fields.map Prod.snd :=
  List.mem_map.mpr ⟨_, mem_of_get? found, rfl⟩

theorem Alike.imp {related other : α → α → Prop} {fields others : Fields α}
    (alike : Alike related fields others)
    (step : ∀ item ∈ fields.map Prod.snd, ∀ partner ∈ others.map Prod.snd,
      related item partner → other item partner) : Alike other fields others := by
  intro key
  have rel := alike key
  cases held : fields.get? key <;> cases found : others.get? key <;>
    simp only [held, found] at rel ⊢ <;> cases rel
  · exact .none
  · rename_i pair
    exact .some (step _ (mem_items held) _ (mem_items found) pair)

theorem Alike.flip {related : α → α → Prop} {fields others : Fields α}
    (alike : Alike related fields others) : Alike (fun item other => related other item) others fields := by
  intro key
  have rel := alike key
  generalize fields.get? key = held at rel
  generalize others.get? key = found at rel
  cases rel with
  | none => exact .none
  | some pair => exact .some pair

private theorem Alike.composed {first second both : α → α → Prop} {fields between others : Fields α}
    (alike : Alike first fields between) (alikeToo : Alike second between others)
    (compose : ∀ item ∈ fields.map Prod.snd, ∀ middle ∈ between.map Prod.snd,
      ∀ other ∈ others.map Prod.snd, first item middle → second middle other → both item other) :
    Alike both fields others := by
  intro key
  have rel := alike key
  cases held : fields.get? key <;> cases through : between.get? key <;>
    simp only [held, through] at rel <;> cases rel
  · have last := alikeToo key
    rw [through] at last
    generalize others.get? key = found at last
    cases last
    exact .none
  · rename_i pair
    obtain ⟨other, found, next⟩ := alikeToo.found through
    rw [found]
    exact .some (compose _ (mem_items held) _ (mem_items through) _ (mem_items found) pair next)

/-- Items are related by what they are rendered to exactly if each key leads to the same once rendered. -/
theorem alike_rendered_iff {β : Type} (render : α → β) {fields others : Fields α} :
    Alike (fun item other => render item = render other) fields others ↔
      ∀ key, (fields.get? key).map render = (others.get? key).map render := by
  refine forall_congr' fun key => ?_
  cases fields.get? key <;> cases others.get? key <;> simp

/-- Fields with distinct keys are as many as the fields of another list with the same keys. -/
theorem Alike.length {related : α → α → Prop} {fields others : Fields α} (distinct : Distinct fields)
    (otherDistinct : Distinct others) (alike : Alike related fields others) :
    fields.length = others.length := by
  have keys := ((List.perm_ext_iff_of_nodup distinct otherDistinct).mpr alike.keys).length_eq
  simpa [Fields.keys] using keys

/-- Where there are as many fields on both sides, no key is left over on the other side once each key has
been found there. -/
theorem keys_of_found {fields others : Fields α} (distinct : Distinct fields)
    (lengths : fields.length = others.length) (found : fields.keys ⊆ others.keys) :
    others.keys ⊆ fields.keys := by
  have fewer : others.keys.length ≤ fields.keys.length := by simp [Fields.keys, lengths]
  exact ((List.Nodup.subperm distinct found).perm_of_length_le fewer).symm.subset

end Fields

namespace Value

theorem beq_def (v w : Value) : (v == w) = v.beq w := rfl

theorem itemsEqual_iff {items others : List Value} :
    itemsEqual items others = true ↔ List.Forall₂ (fun v w => v == w) items others := by
  induction items generalizing others with
  | nil => cases others <;> simp [itemsEqual]
  | cons item rest ih => cases others <;> simp [itemsEqual, ih, beq_def]

theorem fieldsWithin_iff {fields : List (String × Value)} {others : Fields Value} :
    fieldsWithin fields others = true ↔ ∀ field ∈ fields,
      ∃ other, others.get? field.1 = some other ∧ field.2 == other := by
  induction fields with
  | nil => simp [fieldsWithin]
  | cons field rest ih =>
    obtain ⟨key, item⟩ := field
    rw [fieldsWithin, Bool.and_eq_true, ih, List.forall_mem_cons]
    cases others.get? key <;> simp [beq_def]

/-- Fields are compared key by key. -/
theorem fieldsEqual_iff {fields others : Fields Value} (distinct : fields.Distinct)
    (otherDistinct : others.Distinct) :
    (fields.length == others.length && fieldsWithin fields others) = true ↔
      Fields.Alike (fun v w => v == w) fields others := by
  simp only [Bool.and_eq_true, beq_iff_eq, fieldsWithin_iff]
  constructor
  · rintro ⟨lengths, within⟩ key
    cases held : fields.get? key with
    | some item =>
      obtain ⟨other, found, equal⟩ := within _ (Fields.mem_of_get? held)
      exact found ▸ .some equal
    | none =>
      have found : fields.keys ⊆ others.keys := by
        intro key present
        obtain ⟨field, among, rfl⟩ := List.mem_map.mp present
        obtain ⟨other, found, -⟩ := within field among
        exact List.mem_map.mpr ⟨_, Fields.mem_of_get? found, rfl⟩
      rw [Fields.get?_none_iff.mpr fun present =>
        Fields.get?_none_iff.mp held (Fields.keys_of_found distinct lengths found present)]
      exact .none
  · intro alike
    exact ⟨alike.length distinct otherDistinct,
      fun field among => alike.found (Fields.get?_of_mem distinct among)⟩

/-- What it takes for two values to be equal. -/
inductive Matches : Value → Value → Prop where
  | null : Matches .null .null
  | bool {b : Bool} : Matches (.bool b) (.bool b)
  | number {x y : Double} (equal : x == y) : Matches (.number x) (.number y)
  | bigint {n : Int} : Matches (.bigint n) (.bigint n)
  | string {text : String} : Matches (.string text) (.string text)
  /-- Handles are compared by identity alone. -/
  | symbol {s t : Symbol} (same : s == t) : Matches (.symbol s) (.symbol t)
  | array {items others : List Value} (equal : List.Forall₂ (fun v w => v == w) items others) :
      Matches (.array items) (.array others)
  | hash {fields others : List (String × Value)}
      (alike : Fields.Alike (fun v w => v == w) fields others) : Matches (.hash fields) (.hash others)
  | object {c d : Class} {fields others : List (String × Value)} (same : c == d)
      (alike : Fields.Alike (fun v w => v == w) fields others) :
      Matches (.object c fields) (.object d others)
  | regexp {pattern : String} : Matches (.regexp pattern) (.regexp pattern)
  | function {f g : Function} (same : f == g) : Matches (.function f) (.function g)
  | cls {c d : Class} (same : c == d) : Matches (.cls c) (.cls d)

theorem matches_of_equal {v w : Value} (equal : v == w) (wellFormed : v.WellFormed)
    (otherWellFormed : w.WellFormed) : Matches v w := by
  rw [beq_def] at equal
  cases v <;> cases w <;> simp only [Value.beq, Bool.false_eq_true, beq_iff_eq] at equal
  case null.null => exact .null
  case bool.bool => exact equal ▸ .bool
  case number.number => exact .number equal
  case bigint.bigint => exact equal ▸ .bigint
  case string.string => exact equal ▸ .string
  case symbol.symbol => exact .symbol equal
  case array.array => exact .array (itemsEqual_iff.mp equal)
  case hash.hash =>
    exact .hash ((fieldsEqual_iff wellFormed.hash_distinct otherWellFormed.hash_distinct).mp equal)
  case object.object =>
    obtain ⟨same, fields⟩ := Bool.and_eq_true_iff.mp equal
    exact .object same
      ((fieldsEqual_iff wellFormed.object_distinct otherWellFormed.object_distinct).mp fields)
  case regexp.regexp => exact equal ▸ .regexp
  case function.function => exact .function equal
  case cls.cls => exact .cls equal

private theorem equal_of_matches {v w : Value} (alike : Matches v w) (wellFormed : v.WellFormed)
    (otherWellFormed : w.WellFormed) : v == w := by
  rw [beq_def]
  cases alike with
  | null => rfl
  | bool => simp [Value.beq]
  | number equal => simpa [Value.beq] using equal
  | bigint => simp [Value.beq]
  | string => simp [Value.beq]
  | symbol same => simpa [Value.beq] using same
  | array equal =>
    simp only [Value.beq]
    exact itemsEqual_iff.mpr equal
  | hash alike =>
    simp only [Value.beq]
    exact (fieldsEqual_iff wellFormed.hash_distinct otherWellFormed.hash_distinct).mpr alike
  | object same alike =>
    simp only [Value.beq]
    exact Bool.and_eq_true_iff.mpr ⟨same,
      (fieldsEqual_iff wellFormed.object_distinct otherWellFormed.object_distinct).mpr alike⟩
  | regexp => simp [Value.beq]
  | function same => simpa [Value.beq] using same
  | cls same => simpa [Value.beq] using same

/-- Equality of values, kind by kind. -/
theorem equal_iff {v w : Value} (wellFormed : v.WellFormed) (otherWellFormed : w.WellFormed) :
    v == w ↔ Matches v w :=
  ⟨fun equal => matches_of_equal equal wellFormed otherWellFormed,
    fun alike => equal_of_matches alike wellFormed otherWellFormed⟩

end Value

/-! ### Both ways, and from one to the next -/

/-- Numbers are equal if they are one number, or both zero. -/
inductive Double.Matches : Double → Double → Prop where
  | infinite {negative : Bool} : Matches (.infinite negative) (.infinite negative)
  | finite {x : Double.Finite} : Matches (.finite x) (.finite x)
  | zero {x y : Double.Finite} (left : x.mantissa = 0) (right : y.mantissa = 0) :
      Matches (.finite x) (.finite y)

theorem Double.equal_iff {x y : Double} : x == y ↔ x.Matches y := by
  constructor
  · intro equal
    change x.beq y = true at equal
    cases x <;> cases y <;>
      simp only [Double.beq, Bool.false_eq_true, beq_iff_eq, Bool.or_eq_true, Bool.and_eq_true] at equal
    · exact equal ▸ .infinite
    · rcases equal with rfl | ⟨left, right⟩
      · exact .finite
      · exact .zero left right
  · intro alike
    change x.beq y = true
    cases alike with
    | infinite => simp [Double.beq]
    | finite => simp [Double.beq]
    | zero left right => simp [Double.beq, left, right]

private theorem Double.beq_symm {x y : Double} (equal : x == y) : y == x := by
  rw [equal_iff] at equal ⊢
  cases equal with
  | infinite => exact .infinite
  | finite => exact .finite
  | zero left right => exact .zero right left

private theorem Double.beq_trans {x y z : Double} (first : x == y) (second : y == z) : x == z := by
  rw [equal_iff] at first second ⊢
  cases first with
  | infinite => exact second
  | finite => exact second
  | zero left right =>
    cases second with
    | finite => exact .zero left right
    | zero _ last => exact .zero left last

theorem Symbol.equal_iff {s t : Symbol} : s == t ↔ s.id = t.id :=
  beq_iff_eq (a := s.id)

theorem Function.equal_iff {f g : Function} : f == g ↔ f.id = g.id :=
  beq_iff_eq (a := f.id)

theorem Class.equal_iff {c d : Class} : c == d ↔ c.id = d.id :=
  beq_iff_eq (a := c.id)

namespace Value

theorem forall₂_imp {related other : Value → Value → Prop} {items others : List Value}
    (pairs : List.Forall₂ related items others)
    (step : ∀ item ∈ items, ∀ partner ∈ others, related item partner → other item partner) :
    List.Forall₂ other items others := by
  induction pairs with
  | nil => exact .nil
  | cons pair _ ih =>
    refine .cons (step _ List.mem_cons_self _ List.mem_cons_self pair) (ih fun item among partner => ?_)
    exact fun present =>
      step item (List.mem_cons_of_mem _ among) partner (List.mem_cons_of_mem _ present)

private theorem forall₂_composed {first second both : Value → Value → Prop}
    {items between others : List Value}
    (pairs : List.Forall₂ first items between) (pairsToo : List.Forall₂ second between others)
    (compose : ∀ item ∈ items, ∀ middle ∈ between, ∀ other ∈ others,
      first item middle → second middle other → both item other) :
    List.Forall₂ both items others := by
  induction pairs generalizing others with
  | nil =>
    cases pairsToo
    exact .nil
  | cons pair _ ih =>
    cases pairsToo with
    | cons next rest =>
      refine .cons (compose _ List.mem_cons_self _ List.mem_cons_self _ List.mem_cons_self pair next)
        (ih rest fun item among middle through other present => ?_)
      exact compose item (List.mem_cons_of_mem _ among) middle (List.mem_cons_of_mem _ through) other
        (List.mem_cons_of_mem _ present)

theorem equal_symm {v w : Value} (equal : v == w) (wellFormed : v.WellFormed)
    (otherWellFormed : w.WellFormed) : w == v := by
  induction v using parts_induction generalizing w with
  | step v ih =>
    have each : ∀ item ∈ v.parts, ∀ other ∈ w.parts, item == other → other == item :=
      fun item among other present equal =>
        ih item among equal (wellFormed.part among) (otherWellFormed.part present)
    rw [equal_iff wellFormed otherWellFormed] at equal
    rw [equal_iff otherWellFormed wellFormed]
    cases equal with
    | null => exact .null
    | bool => exact .bool
    | number equal => exact .number (Double.beq_symm equal)
    | bigint => exact .bigint
    | string => exact .string
    | symbol same => exact .symbol (Symbol.equal_iff.mpr (Symbol.equal_iff.mp same).symm)
    | array equal => exact .array (forall₂_imp equal each).flip
    | hash alike => exact .hash (alike.imp each).flip
    | object same alike =>
      exact .object (Class.equal_iff.mpr (Class.equal_iff.mp same).symm) (alike.imp each).flip
    | regexp => exact .regexp
    | function same => exact .function (Function.equal_iff.mpr (Function.equal_iff.mp same).symm)
    | cls same => exact .cls (Class.equal_iff.mpr (Class.equal_iff.mp same).symm)

theorem equal_trans {u v w : Value} (first : u == v) (second : v == w) (wellFormed : u.WellFormed)
    (middleWellFormed : v.WellFormed) (lastWellFormed : w.WellFormed) : u == w := by
  induction u using parts_induction generalizing v w with
  | step u ih =>
    have each : ∀ item ∈ u.parts, ∀ middle ∈ v.parts, ∀ other ∈ w.parts,
        item == middle → middle == other → item == other :=
      fun item among middle through other present one two => ih item among one two
        (wellFormed.part among) (middleWellFormed.part through) (lastWellFormed.part present)
    rw [equal_iff wellFormed middleWellFormed] at first
    rw [equal_iff middleWellFormed lastWellFormed] at second
    rw [equal_iff wellFormed lastWellFormed]
    cases first with
    | null => exact second
    | bool => exact second
    | bigint => exact second
    | string => exact second
    | regexp => exact second
    | number one =>
      cases second with
      | number two => exact .number (Double.beq_trans one two)
    | symbol one =>
      cases second with
      | symbol two =>
        exact .symbol (Symbol.equal_iff.mpr
          ((Symbol.equal_iff.mp one).trans (Symbol.equal_iff.mp two)))
    | array one =>
      cases second with
      | array two => exact .array (forall₂_composed one two each)
    | hash one =>
      cases second with
      | hash two => exact .hash (one.composed two each)
    | object same one =>
      cases second with
      | object sameToo two =>
        exact .object (Class.equal_iff.mpr
          ((Class.equal_iff.mp same).trans (Class.equal_iff.mp sameToo))) (one.composed two each)
    | function one =>
      cases second with
      | function two =>
        exact .function (Function.equal_iff.mpr
          ((Function.equal_iff.mp one).trans (Function.equal_iff.mp two)))
    | cls one =>
      cases second with
      | cls two =>
        exact .cls (Class.equal_iff.mpr ((Class.equal_iff.mp one).trans (Class.equal_iff.mp two)))

end Value

end Multimethod
