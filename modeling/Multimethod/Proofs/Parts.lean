import Multimethod.Value

/-!
What stands within a value. The parts of a value are those that it holds directly; what is shown of
every value from its parts is shown of all values (`parts_induction`), and what holds everywhere within
a value holds of it and everywhere within its parts (`everywhere_iff`).
-/
namespace Multimethod.Value

/-- The items of an array, and what the fields of a hash or of an instance hold. -/
def parts : Value → List Value
  | .array items => items
  | .hash fields => fields.map Prod.snd
  | .object _ fields => fields.map Prod.snd
  | _ => []

/-- Induction on what a value holds, at any depth. -/
theorem parts_induction {motive : Value → Prop}
    (step : ∀ value : Value, (∀ part ∈ value.parts, motive part) → motive value) (value : Value) :
    motive value := by
  have plain : ∀ value : Value, value.parts = [] → motive value := fun value none =>
    step value fun part among => absurd (none ▸ among) List.not_mem_nil
  have held : ∀ fields : List (String × Value), (∀ field ∈ fields, motive field.2) →
      ∀ part ∈ fields.map Prod.snd, motive part := by
    intro fields each part among
    obtain ⟨field, present, rfl⟩ := List.mem_map.mp among
    exact each field present
  exact @Value.rec motive (fun items => ∀ item ∈ items, motive item)
    (fun fields => ∀ field ∈ fields, motive field.2) (fun field => motive field.2)
    (plain _ rfl) (fun _ => plain _ rfl) (fun _ => plain _ rfl) (fun _ => plain _ rfl)
    (fun _ => plain _ rfl) (fun _ => plain _ rfl) (fun items each => step (.array items) each)
    (fun fields each => step (.hash fields) (held fields each))
    (fun c fields each => step (.object c fields) (held fields each)) (fun _ => plain _ rfl)
    (fun _ => plain _ rfl) (fun _ => plain _ rfl)
    (fun _ among => absurd among List.not_mem_nil)
    (fun _ _ first rest => List.forall_mem_cons.mpr ⟨first, rest⟩)
    (fun _ among => absurd among List.not_mem_nil)
    (fun _ _ first rest => List.forall_mem_cons.mpr ⟨first, rest⟩)
    (fun _ _ item => item) value

theorem mem_parts_hash {fields : List (String × Value)} {part : Value} :
    part ∈ (hash fields).parts ↔ ∃ key, (key, part) ∈ fields := by
  simp [parts]

/-! ### Everywhere in a value -/

/-- A value stands somewhere within another, or is that value. -/
inductive Within (inner : Value) : Value → Prop where
  | itself : Within inner inner
  | part {part whole : Value} (among : part ∈ whole.parts) (within : Within inner part) :
      Within inner whole

/-- Something holds of a value and of everything within it. -/
def Everywhere (holds : Value → Prop) (value : Value) : Prop :=
  ∀ inner, Within inner value → holds inner

theorem everywhere_iff {holds : Value → Prop} {value : Value} :
    value.Everywhere holds ↔ holds value ∧ ∀ part ∈ value.parts, part.Everywhere holds := by
  constructor
  · intro all
    exact ⟨all value .itself, fun part among inner within => all inner (.part among within)⟩
  · rintro ⟨here, below⟩ inner within
    cases within with
    | itself => exact here
    | part among within => exact below _ among inner within

theorem Everywhere.here {holds : Value → Prop} {value : Value} (all : value.Everywhere holds) :
    holds value :=
  all value .itself

theorem Everywhere.part {holds : Value → Prop} {value part : Value} (all : value.Everywhere holds)
    (among : part ∈ value.parts) : part.Everywhere holds :=
  (everywhere_iff.mp all).2 part among

/-! ### Distinct keys -/

theorem allWellFormed_iff {items : List Value} :
    AllWellFormed items ↔ ∀ item ∈ items, item.WellFormed := by
  induction items with
  | nil => simp [AllWellFormed]
  | cons item rest ih => simp [AllWellFormed, ih]

theorem fieldsWellFormed_iff {fields : List (String × Value)} :
    FieldsWellFormed fields ↔ ∀ part ∈ fields.map Prod.snd, part.WellFormed := by
  induction fields with
  | nil => simp [FieldsWellFormed]
  | cons field rest ih => simp [FieldsWellFormed, ih]

theorem wellFormed_leaf {value : Value} (leaf : value.parts = []) : value.WellFormed := by
  cases value with
  | array items =>
    change items = [] at leaf
    simp [leaf, WellFormed, AllWellFormed]
  | hash fields =>
    have none : fields = [] := List.map_eq_nil_iff.mp leaf
    simp [none, WellFormed, FieldsWellFormed, Fields.Distinct, Fields.keys]
  | object c fields =>
    have none : fields = [] := List.map_eq_nil_iff.mp leaf
    simp [none, WellFormed, FieldsWellFormed, Fields.Distinct, Fields.keys]
  | _ => simp only [WellFormed]

theorem WellFormed.part {value part : Value} (wellFormed : value.WellFormed)
    (among : part ∈ value.parts) : part.WellFormed := by
  cases value with
  | array items =>
    simp only [WellFormed] at wellFormed
    exact allWellFormed_iff.mp wellFormed part among
  | hash fields =>
    simp only [WellFormed] at wellFormed
    exact fieldsWellFormed_iff.mp wellFormed.2 part among
  | object c fields =>
    simp only [WellFormed] at wellFormed
    exact fieldsWellFormed_iff.mp wellFormed.2 part among
  | _ => cases among

theorem WellFormed.hash_distinct {fields : List (String × Value)}
    (wellFormed : (hash fields).WellFormed) : Fields.Distinct fields := by
  simp only [WellFormed] at wellFormed
  exact wellFormed.1

theorem WellFormed.object_distinct {c : Class} {fields : List (String × Value)}
    (wellFormed : (object c fields).WellFormed) : Fields.Distinct fields := by
  simp only [WellFormed] at wellFormed
  exact wellFormed.1

end Multimethod.Value
