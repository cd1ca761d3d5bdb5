import Mathlib.Logic.Function.Basic
import Multimethod.Proofs.Acceptance
import Multimethod.Proofs.Leaves
import Multimethod.Proofs.Requests

/-!
Which predicates a search runs, and in which order. Predicates may have effects and answer as they
like; the answers they happen to give determine, place by place, what is asked next. Bindings,
positions and members are each gone through up to the first that settles the matter, and
`search_asks_in_order` settles that nothing else is asked.
-/
namespace Multimethod

variable {α A P H σ : Type}

/-! ### Going through a list -/

/-- The items up to and including the first that hits, or all of them if none does. -/
def upToFirst (hit : α → Bool) (items : List α) : List α :=
  items.take (items.findIdx hit + 1)

theorem upToFirst_cons (hit : α → Bool) (item : α) (rest : List α) :
    upToFirst hit (item :: rest) = item :: if hit item then [] else upToFirst hit rest := by
  cases found : hit item <;> simp [upToFirst, List.findIdx_cons, found]

private theorem flatMap_upToFirst_cons {β : Type} (hit : α → Bool) (contribute : α → List β) (item : α)
    (rest : List α) :
    (upToFirst hit (item :: rest)).flatMap contribute =
      contribute item ++ if hit item then [] else (upToFirst hit rest).flatMap contribute := by
  rw [upToFirst_cons, List.flatMap_cons]
  split <;> rfl

theorem upToFirst_sublist (hit : α → Bool) (items : List α) :
    (upToFirst hit items).Sublist items :=
  List.take_sublist _ _

/-- An item of a list with its index and the answers that predicates give in it. -/
structure Annotated (α A : Type) where
  item : α
  index : Nat
  answers : A

/-- The items of a list with their indices, counted from a start, and the answers given there. -/
def annotate (answers : Nat → A) (start : Nat) (items : List α) : List (Annotated α A) :=
  (items.zipIdx start).map fun (item, index) => ⟨item, index, answers index⟩

private theorem annotate_cons (answers : Nat → A) (start : Nat) (item : α) (rest : List α) :
    annotate answers start (item :: rest) =
      ⟨item, start, answers start⟩ :: annotate answers (start + 1) rest := rfl

private theorem mem_annotate {answers : Nat → A} {start : Nat} {items : List α} {found : Annotated α A}
    (member : found ∈ annotate answers start items) :
    start ≤ found.index ∧ items[found.index - start]? = some found.item ∧
      found.answers = answers found.index := by
  obtain ⟨⟨item, index⟩, standing, rfl⟩ := List.mem_map.mp member
  obtain ⟨above, held⟩ := List.mk_mem_zipIdx_iff_le_and_getElem?_sub.mp standing
  exact ⟨above, held, rfl⟩

private theorem annotate_update (answers : Nat → A) (start : Nat) (answer : A) (items : List α) :
    annotate (Function.update answers start answer) (start + 1) items =
      annotate answers (start + 1) items := by
  refine List.map_congr_left fun (item, index) standing => ?_
  have above := (List.mk_mem_zipIdx_iff_le_and_getElem?_sub.mp standing).1
  simp only [Function.update_of_ne (Nat.ne_of_gt (Nat.lt_of_succ_le above))]

/-- Answers at the first item and answers at the others go together. -/
theorem annotate_update_cons (answers : Nat → A) (start : Nat) (answer : A) (item : α)
    (rest : List α) :
    annotate (Function.update answers start answer) start (item :: rest) =
      ⟨item, start, answer⟩ :: annotate answers (start + 1) rest := by
  rw [annotate_cons, annotate_update, Function.update_self]

theorem annotate_increasing (answers : Nat → A) (start : Nat) (items : List α) :
    (annotate answers start items).Pairwise fun first second => first.index < second.index := by
  induction items generalizing start with
  | nil => exact .nil
  | cons item rest ih =>
    rw [annotate_cons]
    refine .cons (fun later member => ?_) (ih (start + 1))
    exact Nat.lt_of_succ_le (mem_annotate member).1

/-! ### What should be asked -/

/-- Where a predicate stands in a table: the binding, the position in its schema, and the leaf of
the rule there. The leaves of a flat union are its members. -/
structure Place where
  binding : Nat
  position : Nat
  member : Nat
deriving DecidableEq

/-- Earlier bindings come first, then earlier positions, then earlier members. -/
def Place.Before (first second : Place) : Prop :=
  first.binding < second.binding ∨ first.binding = second.binding ∧
    (first.position < second.position ∨ first.position = second.position ∧
      first.member < second.member)

/-- One run of a predicate. -/
structure Question (P : Type) where
  place : Place
  predicate : P
  value : Value
  answer : Bool

def Question.recorded (question : Question P) : P × Value × Bool :=
  (question.predicate, question.value, question.answer)

namespace Rule

def predicate? : Rule P → Option P
  | .predicate p => some p.test
  | _ => none

/-- Whether a leaf accepts a value, given the answer of the predicate that it may be. -/
def leafHolds (value : Value) (leaf : Annotated (Rule P) Bool) : Bool :=
  (leaf.item.accepts (m := Id) (fun _ _ => leaf.answers) value).run

/-- What a leaf asks: itself if it is a predicate, else nothing. -/
def leafAsked (binding position : Nat) (value : Value) (leaf : Annotated (Rule P) Bool) :
    List (Question P) :=
  leaf.item.predicate?.toList.map fun predicate =>
    ⟨⟨binding, position, leaf.index⟩, predicate, value, leaf.answers⟩

/-- Whether a rule accepts a value, given the answers at its leaves. -/
def holds (answers : Nat → Bool) (rule : Rule P) (value : Value) : Bool :=
  (annotate answers 0 rule.leaves).any (leafHolds value)

/-- What a rule asks: its leaves from left to right, up to the first that accepts. -/
def asked (binding position : Nat) (answers : Nat → Bool) (rule : Rule P) (value : Value) :
    List (Question P) :=
  (upToFirst (leafHolds value) (annotate answers 0 rule.leaves)).flatMap
    (leafAsked binding position value)

end Rule

namespace Schema

/-- Whether a rule accepts the argument at its position, given the answers at its leaves. -/
def ruleHolds (args : List Value) (rule : Annotated (Rule P) (Nat → Bool)) : Bool :=
  rule.item.holds rule.answers (argumentAt args rule.index)

/-- Whether a schema accepts a call, given the answers at its positions. -/
def holds (answers : Nat → Nat → Bool) (schema : Schema P) (args : List Value) : Bool :=
  decide (schema.Fits args) && (annotate answers 0 schema.rules).all (ruleHolds args)

/-- What a rule asks about the argument at its position. -/
def ruleAsked (binding : Nat) (args : List Value) (rule : Annotated (Rule P) (Nat → Bool)) :
    List (Question P) :=
  rule.item.asked binding rule.index rule.answers (argumentAt args rule.index)

/-- What a schema asks: nothing if something solid stands beyond its rules, otherwise its positions
from left to right, up to the first that fails. -/
def asked (binding : Nat) (answers : Nat → Nat → Bool) (schema : Schema P) (args : List Value) :
    List (Question P) :=
  if schema.Fits args then
    (upToFirst (fun rule => !ruleHolds args rule) (annotate answers 0 schema.rules)).flatMap
      (ruleAsked binding args)
  else []

end Schema

namespace Table

/-- Whether a binding accepts a call, given the answers in its schema. -/
def bindingHolds (args : List Value) (binding : Annotated (Binding P H) (Nat → Nat → Bool)) : Bool :=
  binding.item.schema.holds binding.answers args

def bindingAsked (args : List Value) (binding : Annotated (Binding P H) (Nat → Nat → Bool)) :
    List (Question P) :=
  binding.item.schema.asked binding.index binding.answers args

/-- The first accepting binding with its index, given the answers in the table. -/
def found (answers : Nat → Nat → Nat → Bool) (table : Table P H) (args : List Value) :
    Option (Nat × Binding P H) :=
  ((annotate answers 0 table.bindings).find? (bindingHolds args)).map
    fun binding => (binding.index, binding.item)

/-- What a table asks: its bindings in order, up to the first that accepts. -/
def asked (answers : Nat → Nat → Nat → Bool) (table : Table P H) (args : List Value) :
    List (Question P) :=
  (upToFirst (bindingHolds args) (annotate answers 0 table.bindings)).flatMap
    (bindingAsked args)

end Table

/-! ### What is asked -/

/-- Doing the work gives this result and runs these predicates. -/
def Asks (work : StateM (Watched P H σ) α) (watched : Watched P H σ) (result : α)
    (asked : List (P × Value × Bool)) : Prop :=
  (work.run watched).1 = result ∧
    Request.questions (work.run watched).2.requests = Request.questions watched.requests ++ asked

private theorem asks_pure (result : α) (watched : Watched P H σ) : Asks (pure result) watched result [] :=
  ⟨rfl, (List.append_nil _).symm⟩

theorem Asks.bind {β : Type} {first : StateM (Watched P H σ) α}
    {second : α → StateM (Watched P H σ) β} {watched : Watched P H σ} {middle : α} {result : β}
    {asked later : List (P × Value × Bool)} (before : Asks first watched middle asked)
    (after : Asks (second middle) (first.run watched).2 result later) :
    Asks (first >>= second) watched result (asked ++ later) := by
  obtain ⟨reached, said⟩ := before
  obtain ⟨ended, saidAfter⟩ := after
  unfold Asks
  rw [run_then, reached]
  exact ⟨ended, by rw [saidAfter, said, List.append_assoc]⟩

private theorem asks_emit (host : Host P H (StateM σ)) (event : Event) (watched : Watched P H σ) :
    Asks (host.watched.emit event) watched () [] :=
  ⟨rfl, Request.questions_append _ _⟩

section

variable (host : Host P H (StateM σ)) (args : List Value)

private theorem leaf_asks (binding position start : Nat) (value : Value) {leaf : Rule P}
    (plain : leaf.isUnion = false) (watched : Watched P H σ) :
    ∃ answer, Asks (leaf.accepts host.watched.test value) watched
      (Rule.leafHolds value ⟨leaf, start, answer⟩)
      ((Rule.leafAsked binding position value ⟨leaf, start, answer⟩).map Question.recorded) := by
  cases leaf with
  | tag t nullable =>
    simp only [Rule.accepts, Rule.leafHolds]
    exact ⟨false, asks_pure _ _⟩
  | wildcard =>
    simp only [Rule.accepts, Rule.leafHolds]
    exact ⟨false, asks_pure _ _⟩
  | cls c =>
    simp only [Rule.accepts, Rule.leafHolds]
    exact ⟨false, asks_pure _ _⟩
  | predicate p =>
    refine ⟨((host.test p.test value).run watched.state).1, ?_⟩
    simp only [Rule.accepts, Rule.leafHolds]
    exact ⟨rfl, Request.questions_append _ _⟩
  | union members => cases plain

/-- Leaves are asked from left to right, up to the first that accepts. -/
theorem leaves_ask (binding position start : Nat) (value : Value) {leaves : List (Rule P)}
    (plain : ∀ leaf ∈ leaves, leaf.isUnion = false) (watched : Watched P H σ) :
    ∃ answers, Asks (Rule.anyAccepts host.watched.test leaves value) watched
      ((annotate answers start leaves).any (Rule.leafHolds value))
      (((upToFirst (Rule.leafHolds value) (annotate answers start leaves)).flatMap
        (Rule.leafAsked binding position value)).map Question.recorded) := by
  induction leaves generalizing start watched with
  | nil =>
    rw [Rule.anyAccepts]
    exact ⟨fun _ => false, asks_pure _ _⟩
  | cons leaf rest ih =>
    obtain ⟨answer, first⟩ := leaf_asks host binding position start value
      (plain leaf List.mem_cons_self) watched
    obtain ⟨answers, others⟩ := ih (start + 1)
      (fun other member => plain other (List.mem_cons_of_mem _ member))
      ((leaf.accepts host.watched.test value).run watched).2
    refine ⟨Function.update answers start answer, ?_⟩
    rw [annotate_update_cons, List.any_cons, flatMap_upToFirst_cons, List.map_append,
      Rule.anyAccepts]
    cases held : Rule.leafHolds value ⟨leaf, start, answer⟩ with
    | true =>
      rw [held] at first
      exact first.bind (asks_pure true _)
    | false =>
      rw [held] at first
      exact first.bind others

theorem rule_asks (binding position : Nat) (value : Value) (rule : Rule P)
    (watched : Watched P H σ) :
    ∃ answers, Asks (rule.accepts host.watched.test value) watched (rule.holds answers value)
      ((rule.asked binding position answers value).map Question.recorded) := by
  rw [Rule.accepts_eq_any_leaves]
  exact leaves_ask host binding position 0 value (fun _ => Rule.plain_of_mem_leaves) watched

/-- Positions are asked from left to right, up to the first that fails. -/
theorem rules_ask (binding start : Nat) (rules : List (Rule P)) (watched : Watched P H σ) :
    ∃ answers, Asks (Schema.eachAccepts host.watched.test rules (args.drop start)) watched
      ((annotate answers start rules).all (Schema.ruleHolds args))
      (((upToFirst (fun rule => !Schema.ruleHolds args rule) (annotate answers start rules)).flatMap
        (Schema.ruleAsked binding args)).map Question.recorded) := by
  induction rules generalizing start watched with
  | nil =>
    rw [Schema.eachAccepts]
    exact ⟨fun _ _ => false, asks_pure _ _⟩
  | cons rule rest ih =>
    rw [Schema.eachAccepts, List.tail_drop, show (args.drop start).headD .null =
      argumentAt args start by simp [argumentAt, List.headD_eq_head?_getD, List.head?_drop]]
    obtain ⟨answer, first⟩ := rule_asks host binding start (argumentAt args start) rule watched
    obtain ⟨answers, others⟩ := ih (start + 1)
      ((rule.accepts host.watched.test (argumentAt args start)).run watched).2
    refine ⟨Function.update answers start answer, ?_⟩
    rw [annotate_update_cons, List.all_cons, flatMap_upToFirst_cons, List.map_append]
    cases held : Schema.ruleHolds args ⟨rule, start, answer⟩ with
    | true =>
      rw [Schema.ruleHolds] at held
      rw [held] at first
      exact first.bind others
    | false =>
      rw [Schema.ruleHolds] at held
      rw [held] at first
      exact first.bind (asks_pure false _)

/-- A schema asks its rules if the call fits it. -/
theorem schema_asks (binding : Nat) (schema : Schema P) (watched : Watched P H σ) :
    ∃ answers, Asks (schema.accepts host.watched.test args) watched (schema.holds answers args)
      ((schema.asked binding answers args).map Question.recorded) := by
  rw [Schema.accepts_eq_each]
  by_cases fits : schema.Fits args
  · obtain ⟨answers, asks⟩ := rules_ask host args binding 0 schema.rules watched
    refine ⟨answers, ?_⟩
    simpa only [Schema.holds, Schema.asked, fits, decide_true, Bool.true_and, ↓reduceIte,
      List.drop_zero] using asks
  · refine ⟨fun _ _ => false, ?_⟩
    simp only [Schema.holds, Schema.asked, fits, decide_false, Bool.false_and, ↓reduceIte]
    exact asks_pure _ _

/-- Bindings are asked in order, up to the first that accepts. -/
theorem bindings_ask (config : Config) (start : Nat) (bindings : List (Binding P H))
    (watched : Watched P H σ) :
    ∃ answers, Asks (Table.firstFrom host.watched config args start bindings) watched
      (((annotate answers start bindings).find? (Table.bindingHolds args)).map
        fun binding => (binding.index, binding.item))
      (((upToFirst (Table.bindingHolds args) (annotate answers start bindings)).flatMap
        (Table.bindingAsked args)).map Question.recorded) := by
  induction bindings generalizing start watched with
  | nil =>
    rw [Table.firstFrom]
    exact ⟨fun _ _ _ => false, asks_pure _ _⟩
  | cons binding rest ih =>
    obtain ⟨answer, first⟩ := schema_asks host args start binding.schema watched
    change Asks _ _ (Table.bindingHolds args ⟨binding, start, answer⟩) _ at first
    -- What a rejection reports is no question, so the rest is asked as if nothing had been reported.
    have others : ∃ answers, Asks (do
        if config.traceRejections then
          host.watched.emit (.rejected config.name start binding.schema.display args.length)
        Table.firstFrom host.watched config args (start + 1) rest)
        ((binding.accepts host.watched args).run watched).2
        (((annotate answers (start + 1) rest).find? (Table.bindingHolds args)).map
          fun binding => (binding.index, binding.item))
        (((upToFirst (Table.bindingHolds args) (annotate answers (start + 1) rest)).flatMap
          (Table.bindingAsked args)).map Question.recorded) := by
      cases config.traceRejections with
      | true =>
        obtain ⟨answers, asks⟩ := ih (start + 1) _
        exact ⟨answers, (asks_emit host _ _).bind asks⟩
      | false => exact ih (start + 1) _
    obtain ⟨answers, others⟩ := others
    refine ⟨Function.update answers start answer, ?_⟩
    rw [annotate_update_cons, List.find?_cons, flatMap_upToFirst_cons, List.map_append,
      Table.firstFrom]
    cases held : Table.bindingHolds args ⟨binding, start, answer⟩ with
    | true =>
      rw [held] at first
      exact first.bind (asks_pure _ _)
    | false =>
      rw [held] at first
      exact first.bind others

end

/-! ### The order of questions -/

/-- The predicate of a question stands at its place in the table, and it is asked about the argument
at its position, or about null where there is none. No question comes from a binding that the call
does not fit. -/
def Question.StandsIn (table : Table P H) (args : List Value) (question : Question P) : Prop :=
  ∃ binding rule leaf, table.bindings[question.place.binding]? = some binding ∧
    binding.schema.Fits args ∧ binding.schema.rules[question.place.position]? = some rule ∧
    rule.leaves[question.place.member]? = some leaf ∧ leaf.predicate? = some question.predicate ∧
    question.value = argumentAt args question.place.position

private theorem mem_leafAsked {binding position : Nat} {value : Value} {leaf : Annotated (Rule P) Bool}
    {question : Question P} (member : question ∈ Rule.leafAsked binding position value leaf) :
    question.place = ⟨binding, position, leaf.index⟩ ∧
      leaf.item.predicate? = some question.predicate ∧ question.value = value := by
  obtain ⟨predicate, given, rfl⟩ := List.mem_map.mp member
  exact ⟨rfl, Option.mem_toList.mp given, rfl⟩

private theorem mem_rule_asked {binding position : Nat} {answers : Nat → Bool} {rule : Rule P}
    {value : Value} {question : Question P}
    (member : question ∈ rule.asked binding position answers value) :
    question.place.binding = binding ∧ question.place.position = position ∧
      question.value = value ∧ ∃ leaf, rule.leaves[question.place.member]? = some leaf ∧
        leaf.predicate? = some question.predicate := by
  obtain ⟨leaf, reached, asked⟩ := List.mem_flatMap.mp member
  obtain ⟨place, given, about⟩ := mem_leafAsked asked
  have standing := (mem_annotate ((upToFirst_sublist _ _).mem reached)).2.1
  rw [place]
  exact ⟨rfl, rfl, about, leaf.item, standing, given⟩

private theorem mem_schema_asked {binding : Nat} {answers : Nat → Nat → Bool} {schema : Schema P}
    {args : List Value} {question : Question P}
    (member : question ∈ schema.asked binding answers args) :
    question.place.binding = binding ∧ schema.Fits args ∧
      question.value = argumentAt args question.place.position ∧
      ∃ rule leaf, schema.rules[question.place.position]? = some rule ∧
        rule.leaves[question.place.member]? = some leaf ∧
        leaf.predicate? = some question.predicate := by
  unfold Schema.asked at member
  split at member
  · rename_i fits
    obtain ⟨rule, reached, asked⟩ := List.mem_flatMap.mp member
    obtain ⟨place, position, about, leaf, held, given⟩ := mem_rule_asked asked
    have standing := (mem_annotate ((upToFirst_sublist _ _).mem reached)).2.1
    rw [position]
    exact ⟨place, fits, about, rule.item, leaf, standing, held, given⟩
  · cases member

private theorem mem_table_asked {answers : Nat → Nat → Nat → Bool} {table : Table P H} {args : List Value}
    {question : Question P} (member : question ∈ table.asked answers args) :
    question.StandsIn table args := by
  obtain ⟨binding, reached, asked⟩ := List.mem_flatMap.mp member
  obtain ⟨place, fits, about, rule, leaf, held, found, given⟩ := mem_schema_asked asked
  have standing := (mem_annotate ((upToFirst_sublist _ _).mem reached)).2.1
  rw [← place] at standing
  exact ⟨binding.item, rule, leaf, standing, fits, held, found, given, about⟩

/-- Contributions come in the order of the items, whatever is left out at the end. -/
theorem flatMap_upToFirst_pairwise {β : Type} {ordered : β → β → Prop}
    {contribute : Annotated α A → List β} (hit : Annotated α A → Bool) (answers : Nat → A)
    (start : Nat) (items : List α) (within : ∀ item, (contribute item).Pairwise ordered)
    (between : ∀ first second, first.index < second.index →
      ∀ x ∈ contribute first, ∀ y ∈ contribute second, ordered x y) :
    ((upToFirst hit (annotate answers start items)).flatMap contribute).Pairwise ordered := by
  refine List.pairwise_flatMap.mpr ⟨fun item _ => within item, ?_⟩
  exact ((annotate_increasing answers start items).sublist (upToFirst_sublist hit _)).imp
    (between _ _)

private theorem rule_asked_ordered (binding position : Nat) (answers : Nat → Bool) (rule : Rule P)
    (value : Value) :
    (rule.asked binding position answers value).Pairwise fun first second =>
      first.place.Before second.place := by
  refine flatMap_upToFirst_pairwise _ _ _ _ (fun leaf => ?_) fun first second before x asked y later => ?_
  · unfold Rule.leafAsked
    cases leaf.item.predicate? with
    | none => exact .nil
    | some predicate => exact List.pairwise_singleton _ _
  · rw [(mem_leafAsked asked).1, (mem_leafAsked later).1]
    exact .inr ⟨rfl, .inr ⟨rfl, before⟩⟩

private theorem schema_asked_ordered (binding : Nat) (answers : Nat → Nat → Bool) (schema : Schema P)
    (args : List Value) :
    (schema.asked binding answers args).Pairwise fun first second =>
      first.place.Before second.place := by
  unfold Schema.asked
  split
  · refine flatMap_upToFirst_pairwise _ _ _ _ (fun rule => rule_asked_ordered _ _ _ _ _)
      fun first second before x asked y later => ?_
    obtain ⟨firstBinding, firstPosition, -⟩ := mem_rule_asked asked
    obtain ⟨secondBinding, secondPosition, -⟩ := mem_rule_asked later
    refine .inr ⟨firstBinding.trans secondBinding.symm, .inl ?_⟩
    rw [firstPosition, secondPosition]
    exact before
  · exact .nil

/-- Questions come in the order of their places. -/
theorem table_asked_ordered (answers : Nat → Nat → Nat → Bool) (table : Table P H)
    (args : List Value) :
    (table.asked answers args).Pairwise fun first second => first.place.Before second.place := by
  refine flatMap_upToFirst_pairwise _ _ _ _ (fun binding => schema_asked_ordered _ _ _ _)
    fun first second before x asked y later => ?_
  refine .inl ?_
  rw [(mem_schema_asked asked).1, (mem_schema_asked later).1]
  exact before

private theorem Place.Before.ne {first second : Place} (before : first.Before second) : first ≠ second := by
  rintro rfl
  rcases before with less | ⟨-, less | ⟨-, less⟩⟩ <;> exact absurd less (Nat.lt_irrefl _)

/-- Nothing after the first hit is reached. -/
theorem upToFirst_within {hit : Annotated α A → Bool} {answers : Nat → A} {start : Nat}
    {items : List α} {first item : Annotated α A}
    (found : (annotate answers start items).find? hit = some first)
    (reached : item ∈ upToFirst hit (annotate answers start items)) : item.index ≤ first.index := by
  induction items generalizing start with
  | nil => cases found
  | cons head rest ih =>
    rw [annotate_cons, List.find?_cons] at found
    rw [annotate_cons, upToFirst_cons] at reached
    cases hits : hit ⟨head, start, answers start⟩ with
    | true =>
      simp only [hits, ↓reduceIte, List.mem_singleton] at reached
      rw [hits] at found
      cases found
      exact reached ▸ Nat.le_refl _
    | false =>
      simp only [hits, Bool.false_eq_true, ↓reduceIte, List.mem_cons] at reached
      rw [hits] at found
      rcases reached with rfl | reached
      · exact Nat.le_of_succ_le (mem_annotate (List.mem_of_find?_eq_some found)).1
      · exact ih found reached

/-- No question comes from a binding behind the one that is found. -/
theorem asked_within_found {answers : Nat → Nat → Nat → Bool} {table : Table P H}
    {args : List Value} {question : Question P} {index : Nat} {binding : Binding P H}
    (member : question ∈ table.asked answers args)
    (found : table.found answers args = some (index, binding)) : question.place.binding ≤ index := by
  obtain ⟨reached, inside, asked⟩ := List.mem_flatMap.mp member
  obtain ⟨first, first_found, same⟩ := Option.map_eq_some_iff.mp found
  cases same
  rw [(mem_schema_asked asked).1]
  exact upToFirst_within first_found inside

private theorem Table.Ends.questions_nil {table : Table P H} {args : List Value}
    {found : Option (Nat × Binding P H)} {outcome : Outcome} {ending : List (Request P H)}
    (ends : table.Ends args found outcome ending) : Request.questions ending = [] := by
  cases ends <;> rfl

/-- Whatever effects predicates have, a search asks binding by binding, position by position and member
by member, each up to the first that settles it, and no place twice. Resolving a call asks the same, all
of it before a handler runs. -/
theorem search_asks_in_order (host : Host P H (StateM σ)) (table : Table P H) (args : List Value)
    (state : σ) :
    let searched := (table.firstAccepting host.watched args).run ⟨state, []⟩
    let resolved := (table.resolve host.watched args).run ⟨state, []⟩
    ∃ answers : Nat → Nat → Nat → Bool,
      Request.questions searched.2.requests =
        (table.asked answers args).map Question.recorded ∧
      searched.1 = table.found answers args ∧
      (∀ question ∈ table.asked answers args, question.StandsIn table args) ∧
      (∀ members : List (Rule P), (∀ member ∈ members, member.isUnion = false) →
        (Rule.union members).leaves = members) ∧
      ((table.asked answers args).Pairwise fun first second => first.place.Before second.place) ∧
      ((table.asked answers args).map Question.place).Nodup ∧
      (∀ question ∈ table.asked answers args, ∀ index binding,
        searched.1 = some (index, binding) → question.place.binding ≤ index) ∧
      (∃ ending, table.Ends args searched.1 resolved.1 ending ∧
        resolved.2.requests = searched.2.requests ++ ending ∧ Request.questions ending = []) ∧
      (table.firstAccepting host args).run state = (searched.1, searched.2.state) ∧
      (table.resolve host args).run state = (resolved.1, resolved.2.state) := by
  intro searched resolved
  obtain ⟨answers, finds, asks⟩ := bindings_ask host args table.config 0 table.bindings ⟨state, []⟩
  have found : searched.1 = table.found answers args := finds
  refine ⟨answers, asks, found, fun _ => mem_table_asked,
    fun _ => Rule.leaves_union_of_plain, table_asked_ordered _ _ _, ?_, ?_, ?_,
    firstAccepting_unwatched host table args ⟨state, []⟩,
    resolve_unwatched host table args ⟨state, []⟩⟩
  · exact List.pairwise_map.mpr ((table_asked_ordered answers table args).imp Place.Before.ne)
  · intro question member index binding same
    exact asked_within_found member (found.symm.trans same)
  · obtain ⟨ending, ends, all⟩ := resolve_ends host table args ⟨state, []⟩
    exact ⟨ending, ends, all, ends.questions_nil⟩

end Multimethod
