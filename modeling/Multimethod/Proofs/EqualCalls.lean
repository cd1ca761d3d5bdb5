import Multimethod.Proofs.Acceptance
import Multimethod.Proofs.Handles
import Multimethod.Proofs.Leaves
import Multimethod.Proofs.Rendering
import Multimethod.Table.Resolve

/-!
Equal calls. Equal values have the same document and are classified alike by every rule that asks no
predicate, so a table without predicates takes calls with equal arguments alike
(`equal_calls_taken_alike`). What a value is known by, its identity, is all that equality looks at in a
handle; the rest follows since one identity belongs to one thing.
-/
namespace Multimethod

variable {P H : Type} {m : Type → Type} [Monad m]

/-- Two equal values that a program can have built on what it has made. -/
structure Handles.Equal (handles : Handles) (v w : Value) : Prop where
  given : handles.Gives v
  otherGiven : handles.Gives w
  equal : v == w

theorem Handles.Equal.matched {handles : Handles} {v w : Value} (same : handles.Equal v w) :
    v.Matches w :=
  Value.matches_of_equal same.equal same.given.wellFormed same.otherGiven.wellFormed

private theorem Handles.equal_null (handles : Handles) : handles.Equal .null .null :=
  ⟨Handles.gives_leaf rfl trivial, Handles.gives_leaf rfl trivial, rfl⟩

/-! ### Documents -/

/-- Fields that hold the same under each key, once rendered, are the same once rendered and sorted. -/
theorem Fields.Alike.sorted {α β : Type} {render : α → β} {fields others : Fields α}
    (alike : Alike (fun item other => render item = render other) fields others)
    (distinct : fields.Distinct) (otherDistinct : others.Distinct) :
    Json.sortMembers (fields.mapItems render) = Json.sortMembers (others.mapItems render) := by
  refine Json.sortMembers_congr ?_ ?_ fun key => ?_
  · rwa [Distinct, keys_mapItems]
  · rwa [Distinct, keys_mapItems]
  · rw [get?_mapItems, get?_mapItems]
    exact (alike_rendered_iff render).mp alike key

namespace Value

theorem hash_toJson_congr {fields others : Fields Value}
    (alike : Fields.Alike (fun v w => v.toJson = w.toJson) fields others) (distinct : fields.Distinct)
    (otherDistinct : others.Distinct) : (hash fields).toJson = (hash others).toJson := by
  rw [toJson, toJson, fieldsToJson_eq_mapItems, fieldsToJson_eq_mapItems, Json.ofMembers,
    Json.ofMembers, alike.sorted distinct otherDistinct]

/-- Equal values that a program can have built are rendered to one document. -/
theorem toJson_congr {supply : Supply} {handles : Handles} (made : Handles.Made supply handles)
    {v w : Value} (same : handles.Equal v w) : v.toJson = w.toJson := by
  obtain ⟨symbols, functions, classes⟩ := made.unique
  induction v using parts_induction generalizing w with
  | step v ih =>
    obtain ⟨given, otherGiven, equal⟩ := same
    have each : ∀ part ∈ v.parts, ∀ other ∈ w.parts, part == other → part.toJson = other.toJson :=
      fun part among other present same =>
        ih part among ⟨given.part among, otherGiven.part present, same⟩
    cases matches_of_equal equal given.wellFormed otherGiven.wellFormed with
    | null => rfl
    | bool => rfl
    | number equal =>
      rw [toJson, toJson]
      exact Double.toJson_congr equal
    | bigint => rfl
    | string => rfl
    | symbol same =>
      rw [symbols.unique _ given.known.here _ otherGiven.known.here (Symbol.equal_iff.mp same)]
    | @array items others pairs =>
      have documents : List.Forall₂ Eq (items.map toJson) (others.map toJson) := by
        rw [List.forall₂_map_left_iff, List.forall₂_map_right_iff]
        exact forall₂_imp pairs each
      rw [List.forall₂_eq_eq_eq] at documents
      rw [toJson_array, toJson_array, documents]
    | hash alike =>
      exact hash_toJson_congr (alike.imp each) given.wellFormed.hash_distinct
        otherGiven.wellFormed.hash_distinct
    | object same alike =>
      rw [toJson_object, toJson_object]
      exact hash_toJson_congr (alike.imp each) given.wellFormed.object_distinct
        otherGiven.wellFormed.object_distinct
    | regexp => rfl
    | function same =>
      rw [functions.unique _ given.known.here _ otherGiven.known.here (Function.equal_iff.mp same)]
    | cls same =>
      rw [classes.unique _ given.known.here _ otherGiven.known.here (Class.equal_iff.mp same)]

end Value

/-! ### Rules -/

section Rules

variable {supply : Supply} {handles : Handles} {v w : Value}

private theorem Value.isNull_congr (alike : v.Matches w) : v.isNull = w.isNull := by
  cases alike <;> rfl

/-- Tags tell kinds apart, and equal values are of one kind. -/
theorem Tag.accepts_congr (alike : v.Matches w) (t : Tag) : t.accepts v = t.accepts w := by
  have kinds : v.kind = w.kind := by cases alike <;> rfl
  rw [Bool.eq_iff_iff, t.accepts_iff_kind, t.accepts_iff_kind, kinds]

/-- Only an instance is an instance of anything, and an equal one has the same class. -/
theorem Value.isInstanceOf_congr (made : Handles.Made supply handles) (same : handles.Equal v w)
    (c : Class) : v.isInstanceOf c = w.isInstanceOf c := by
  cases same.matched with
  | object equal _ =>
    obtain ⟨-, -, classes⟩ := made.unique
    have one := classes.unique _ same.given.known.here _ same.otherGiven.known.here
      (Class.equal_iff.mp equal)
    simp only [isInstanceOf, one]
  | _ => rfl

namespace Rule

/-- A rule no part of which is a predicate. -/
def AsksNothing (rule : Rule P) : Prop :=
  ∀ leaf ∈ rule.leaves, ∀ p, leaf ≠ .predicate p

private theorem leaf_decides (made : Handles.Made supply handles) (same : handles.Equal v w)
    (test : P → Value → m Bool) {leaf : Rule P} (plain : leaf.isUnion = false)
    (asksNothing : ∀ p, leaf ≠ .predicate p) :
    ∃ accepted, leaf.accepts test v = pure accepted ∧ leaf.accepts test w = pure accepted := by
  cases leaf with
  | tag t nullable =>
    refine ⟨(nullable && v.isNull) || t.accepts v, by rw [accepts], ?_⟩
    rw [accepts, Value.isNull_congr same.matched, t.accepts_congr same.matched]
  | wildcard => exact ⟨true, by rw [accepts], by rw [accepts]⟩
  | cls c =>
    refine ⟨v.isInstanceOf c, by rw [accepts], ?_⟩
    rw [accepts, Value.isInstanceOf_congr made same]
  | predicate p => exact absurd rfl (asksNothing p)
  | union members => cases plain

variable [LawfulMonad m]

/-- A rule that asks nothing decides on two equal values alike. -/
theorem decides_alike (made : Handles.Made supply handles) (same : handles.Equal v w)
    (test : P → Value → m Bool) {rule : Rule P} (asksNothing : rule.AsksNothing) :
    ∃ accepted, rule.accepts test v = pure accepted ∧ rule.accepts test w = pure accepted := by
  rw [accepts_eq_any_leaves, accepts_eq_any_leaves]
  have plain : ∀ leaf ∈ rule.leaves, leaf.isUnion = false := fun leaf among => plain_of_mem_leaves among
  unfold AsksNothing at asksNothing
  -- a row of leaves asks the next one only after a refusal, which the two values share
  generalize rule.leaves = row at asksNothing plain
  induction row with
  | nil => exact ⟨false, by rw [anyAccepts], by rw [anyAccepts]⟩
  | cons leaf rest ih =>
    obtain ⟨here, rest_asks⟩ := List.forall_mem_cons.mp asksNothing
    obtain ⟨leaf_plain, rest_plain⟩ := List.forall_mem_cons.mp plain
    obtain ⟨accepted, first, second⟩ := leaf_decides made same test leaf_plain here
    rw [anyAccepts, anyAccepts, first, second, pure_bind, pure_bind]
    cases accepted with
    | true => exact ⟨true, rfl, rfl⟩
    | false => exact ih rest_asks rest_plain

end Rule

end Rules

/-! ### Schemas and tables -/

section Calls

variable {supply : Supply} {handles : Handles} {args others : List Value}

/-- Equal arguments stand at each position of two equal calls, absent ones included. -/
theorem equal_arguments (calls : List.Forall₂ handles.Equal args others) (position : Nat) :
    handles.Equal (argumentAt args position) (argumentAt others position) := by
  induction calls generalizing position with
  | nil => exact handles.equal_null
  | cons first _ ih =>
    cases position with
    | zero => exact first
    | succ position => exact ih position

namespace Schema

private theorem fits_congr (schema : Schema P) (calls : List.Forall₂ handles.Equal args others) :
    schema.Fits args ↔ schema.Fits others := by
  have null : ∀ position, argumentAt args position = .null ↔ argumentAt others position = .null := by
    intro position
    rw [← Value.isNull_iff, ← Value.isNull_iff,
      Value.isNull_congr (equal_arguments calls position).matched]
  simp only [Fits, null]

variable [LawfulMonad m]

private theorem each_decides_alike (made : Handles.Made supply handles) (test : P → Value → m Bool)
    {rules : List (Rule P)} (asksNothing : ∀ rule ∈ rules, rule.AsksNothing)
    (same : ∀ position, handles.Equal (argumentAt args position) (argumentAt others position)) :
    eachAccepts test rules args = eachAccepts test rules others := by
  induction rules generalizing args others with
  | nil => simp only [eachAccepts]
  | cons rule rules ih =>
    obtain ⟨here, rest⟩ := List.forall_mem_cons.mp asksNothing
    obtain ⟨accepted, first, second⟩ := Rule.decides_alike made (same 0) test here
    have tails : eachAccepts test rules args.tail = eachAccepts test rules others.tail := by
      refine ih rest fun position => ?_
      simpa only [argumentAt_tail] using same (position + 1)
    simp only [eachAccepts, head_eq_argumentAt, first, second, tails]

/-- A schema that asks nothing accepts both of two equal calls or neither. -/
theorem accepts_alike (made : Handles.Made supply handles) (test : P → Value → m Bool)
    {schema : Schema P} (asksNothing : ∀ rule ∈ schema.rules, rule.AsksNothing)
    (calls : List.Forall₂ handles.Equal args others) :
    schema.accepts test args = schema.accepts test others := by
  simp only [accepts_eq_each, schema.fits_congr calls]
  rw [each_decides_alike made test asksNothing (equal_arguments calls)]

end Schema

variable [LawfulMonad m]

/-- A search through bindings that ask nothing takes two equal calls alike. -/
theorem Table.firstFrom_alike (made : Handles.Made supply handles) (host : Host P H m)
    (config : Config) {bindings : List (Binding P H)}
    (asksNothing : ∀ binding ∈ bindings, ∀ rule ∈ binding.schema.rules, rule.AsksNothing)
    (calls : List.Forall₂ handles.Equal args others) (index : Nat) :
    firstFrom host config args index bindings = firstFrom host config others index bindings := by
  induction bindings generalizing index with
  | nil => rw [firstFrom, firstFrom]
  | cons binding rest ih =>
    obtain ⟨here, later⟩ := List.forall_mem_cons.mp asksNothing
    have accepts : binding.accepts host args = binding.accepts host others :=
      Schema.accepts_alike made host.test here calls
    rw [firstFrom, firstFrom, accepts, calls.length_eq, ih later]

/-- What a program has made tells equal values apart nowhere: rules without predicates decide on them
alike, they have one document, and a table without predicates takes calls with equal arguments alike, down
to the rejections that it reports. -/
theorem equal_calls_taken_alike (made : Handles.Made supply handles) (host : Host P H m) :
    (∀ v w : Value, handles.Equal v w →
      v.toJson = w.toJson ∧
      ∀ rule : Rule P, rule.AsksNothing →
        ∃ accepted, rule.accepts host.test v = pure accepted ∧
          rule.accepts host.test w = pure accepted) ∧
    ∀ (table : Table P H) (args others : List Value),
      (∀ binding ∈ table.bindings, ∀ rule ∈ binding.schema.rules, rule.AsksNothing) →
      List.Forall₂ handles.Equal args others →
        table.firstAccepting host args = table.firstAccepting host others := by
  constructor
  · intro v w same
    exact ⟨Value.toJson_congr made same,
      fun rule asksNothing => Rule.decides_alike made same host.test asksNothing⟩
  · intro table args others asksNothing calls
    exact Table.firstFrom_alike made host table.config asksNothing calls 0

/-- Two instances of a class that are equal, though one has its fields in another order and another zero in
them, both go to the second of two bindings, which asks for the class that theirs extends. -/
theorem instance_of_base_taken_alike :
    let base := Class.root 0 "Base"
    let derived := Class.derived 1 "Derived" base
    let mark : Symbol := ⟨2, some "mark"⟩
    let handles : Handles := ⟨[mark], [], [derived, base]⟩
    let v := Value.object derived [("at", .number (.finite (.zero false))), ("mark", .symbol mark)]
    let w := Value.object derived [("mark", .symbol mark), ("at", .number (.finite (.zero true)))]
    let table : Table Unit Unit := { bindings := [
      ⟨⟨[.tag .array true]⟩, .native ()⟩,
      ⟨⟨[.union [.tag .string false, .cls base]]⟩, .native ()⟩] }
    let host : Host Unit Unit Id :=
      ⟨fun _ _ => false, fun _ _ => pure .null, fun _ _ => pure .null, fun _ => pure ()⟩
    Handles.Made ⟨3⟩ handles ∧ handles.Equal v w ∧ v.toJson = w.toJson ∧
      (table.firstAccepting host [v]).run.map Prod.fst = some 1 ∧
      (table.firstAccepting host [w]).run.map Prod.fst = some 1 := by
  intro base derived mark handles v w table host
  have made : Handles.Made ⟨3⟩ handles :=
    .symbol (.cls (.cls .nothing "Base" none nofun) "Derived" (some base)
      (by simp [base, Supply.newClass, Supply.initial])) (some "mark")
  have zero : ∀ negative, handles.Gives (.number (.finite (.zero negative))) :=
    fun negative => Handles.gives_leaf rfl trivial
  have marked : handles.Gives (.symbol mark) := Handles.gives_leaf rfl List.mem_cons_self
  have same : handles.Equal v w :=
    ⟨Handles.gives_object List.mem_cons_self (by simp [Fields.Distinct, Fields.keys])
        (List.forall_mem_cons.mpr ⟨zero false, List.forall_mem_singleton.mpr marked⟩),
      Handles.gives_object List.mem_cons_self (by simp [Fields.Distinct, Fields.keys])
        (List.forall_mem_cons.mpr ⟨marked, List.forall_mem_singleton.mpr (zero true)⟩),
      by decide⟩
  have asksNothing : ∀ binding ∈ table.bindings, ∀ rule ∈ binding.schema.rules, rule.AsksNothing := by
    simp [table, Rule.AsksNothing, Rule.leaves, Rule.leavesOfEach]
  have alike := equal_calls_taken_alike made host
  have selected : (table.firstAccepting host [v]).run.map Prod.fst = some 1 := rfl
  refine ⟨made, same, (alike.1 v w same).1, selected, ?_⟩
  rw [← alike.2 table [v] [w] asksNothing (.cons same .nil), selected]

end Calls

end Multimethod
