import Mathlib.Data.List.Forall2
import Mathlib.Logic.Relation
import Multimethod.Proofs.Flatness
import Multimethod.Proofs.Growth

/-!
Different spellings of a rule. A question mark is a union with null, a rule is the union of itself, the
members of a union stand in no order, and a star takes in whatever stands beside it. Tables whose rules
differ in spelling only select alike: `respelled_tables_select_alike`.
-/
namespace Multimethod

variable {P H σ : Type}

/-! ### Rules -/

namespace Rule

/-- One rule is another spelling of another: `Respells rule other` tells that `other` may be written for
`rule`. -/
inductive Respells : Rule P → Rule P → Prop where
  | nullable {t : Tag} : Respells (.tag t true) (.union [.tag t false, .tag .nulled false])
  /-- In a union the two stand among the other members, so that it stays flat. -/
  | spliced {before after : List (Rule P)} {t : Tag} :
      Respells (.union (before ++ .tag t true :: after))
        (.union (before ++ .tag t false :: .tag .nulled false :: after))
  | wrapped {rule : Rule P} (plain : rule.isUnion = false) : Respells rule (.union [rule])
  /-- Members may change places, and may be written more than once. -/
  | rearranged {members others : List (Rule P)} (same : ∀ rule, rule ∈ others ↔ rule ∈ members) :
      Respells (.union members) (.union others)
  | starred {members : List (Rule P)} (star : .wildcard ∈ members) :
      Respells (.union members) .wildcard

/-- Any number of respellings, one after another. -/
def Respelled : Rule P → Rule P → Prop :=
  Relation.ReflTransGen Respells

private theorem satisfied_union {answer : P → Value → Bool} {members : List (Rule P)} {value : Value} :
    (union members).Satisfied answer value ↔ ∃ rule ∈ members, rule.Satisfied answer value := by
  constructor
  · intro satisfied
    cases satisfied with
    | member belongs satisfied => exact ⟨_, belongs, satisfied⟩
  · rintro ⟨rule, belongs, satisfied⟩
    exact .member belongs satisfied

/-- A nullable tag is satisfied by what belongs to the tag, and by null. -/
theorem satisfied_nullable {answer : P → Value → Bool} {t : Tag} {value : Value} :
    (tag t true).Satisfied answer value ↔
      (tag t false).Satisfied answer value ∨ (tag .nulled false).Satisfied answer value := by
  constructor
  · intro satisfied
    cases satisfied with
    | tag belongs => exact .inl (.tag belongs)
    | absent => exact .inr (.tag rfl)
  · rintro (⟨⟨belongs⟩⟩ | ⟨⟨null⟩⟩)
    · exact .tag belongs
    · cases value with
      | null => exact .absent
      | _ => cases null

private theorem respells_satisfied {rule other : Rule P} (respells : Respells rule other)
    (answer : P → Value → Bool) (value : Value) :
    other.Satisfied answer value ↔ rule.Satisfied answer value := by
  cases respells with
  | nullable => simp [satisfied_union, satisfied_nullable]
  | spliced =>
    simp only [satisfied_union, List.mem_append, List.mem_cons, or_and_right, exists_or,
      exists_eq_left, satisfied_nullable, or_assoc]
  | wrapped => simp [satisfied_union]
  | rearranged same => simp only [satisfied_union, same]
  | starred star =>
    exact ⟨fun _ => .member star .anything, fun _ => .anything⟩

/-- Respelled rules are satisfied by the same values. -/
theorem respelled_satisfied {rule other : Rule P} (respelled : Respelled rule other)
    (answer : P → Value → Bool) (value : Value) :
    other.Satisfied answer value ↔ rule.Satisfied answer value := by
  induction respelled with
  | refl => exact Iff.rfl
  | tail _ last ih => exact (respells_satisfied last answer value).trans ih

private theorem respells_flat {rule other : Rule P} (respells : Respells rule other) (flat : rule.Flat) :
    other.Flat := by
  cases respells with
  | nullable => exact ⟨List.cons_ne_nil _ _, by simp [isUnion]⟩
  | @spliced before after t =>
    refine ⟨by simp, fun member belongs => ?_⟩
    have among : member ∈ before ++ .tag t true :: after ∨ member = .tag t false ∨
        member = .tag .nulled false := by
      simp only [List.mem_append, List.mem_cons] at belongs ⊢
      tauto
    rcases among with old | rfl | rfl
    · exact flat.2 member old
    · rfl
    · rfl
  | wrapped plain => exact ⟨List.cons_ne_nil _ _, by simpa using plain⟩
  | @rearranged members others same =>
    refine ⟨?_, fun member belongs => flat.2 member ((same member).mp belongs)⟩
    rintro rfl
    obtain ⟨member, belongs⟩ := List.exists_mem_of_ne_nil members flat.1
    exact absurd ((same member).mpr belongs) List.not_mem_nil
  | starred => trivial

/-- Respelled rules are in order if the rules were. -/
theorem respelled_flat {rule other : Rule P} (respelled : Respelled rule other) (flat : rule.Flat) :
    other.Flat := by
  induction respelled with
  | refl => exact flat
  | tail _ last ih => exact respells_flat last ih

end Rule

/-! ### Schemas and tables -/

/-- Two schemas have the same rules in the same places, some of them in other spellings. -/
def Schema.Respelled (schema other : Schema P) : Prop :=
  List.Forall₂ Rule.Respelled schema.rules other.rules

private theorem Schema.respelled_each {rules others : List (Rule P)}
    (respelled : List.Forall₂ Rule.Respelled rules others) (answer : P → Value → Bool)
    (args : List Value) : (eachAccepts (m := Id) answer others args).run =
      (eachAccepts (m := Id) answer rules args).run := by
  induction respelled generalizing args with
  | nil => rfl
  | @cons rule other rules others first rest ih =>
    have accepts : (other.accepts (m := Id) answer (args.headD .null)).run =
        (rule.accepts (m := Id) answer (args.headD .null)).run := by
      rw [Bool.eq_iff_iff, accepts_iff_satisfied, accepts_iff_satisfied]
      exact Rule.respelled_satisfied first answer _
    simp only [eachAccepts, Id.run_bind, accepts]
    split
    · exact ih args.tail
    · rfl

/-- Respelled schemas accept the same calls. -/
theorem Schema.respelled_accepts {schema other : Schema P} (respelled : schema.Respelled other)
    (answer : P → Value → Bool) (args : List Value) :
    (other.accepts (m := Id) answer args).run = (schema.accepts (m := Id) answer args).run := by
  have fits : other.Fits args ↔ schema.Fits args := by
    have lengths : other.length = schema.length := respelled.length_eq.symm
    simp only [Fits, lengths]
  simp only [accepts_eq_each, fits]
  split
  · exact respelled_each respelled answer args
  · rfl

namespace Table

/-- Two tables have the same bindings in the same order, some rules of which are spelled differently. -/
structure Respelled (table other : Table P H) : Prop where
  config : other.config = table.config
  bindings : List.Forall₂
    (fun binding other => binding.schema.Respelled other.schema ∧ other.handler = binding.handler)
    table.bindings other.bindings
  fallback : other.fallback = table.fallback

/-- Searches take the same time in two rows of bindings that accept a call alike one by one. -/
theorem indices_alike {answer : P → Value → Bool} {args : List Value}
    {bindings others : List (Binding P H)}
    (alike : List.Forall₂ (fun binding other =>
      (other.schema.accepts (m := Id) answer args).run =
        (binding.schema.accepts (m := Id) answer args).run) bindings others)
    (config : Config) (index : Nat) :
    (firstFrom (Host.silent answer) config args index others).run.map Prod.fst =
      (firstFrom (Host.silent answer) config args index bindings).run.map Prod.fst := by
  induction alike generalizing index with
  | nil => rfl
  | cons first _ ih =>
    rw [silent_firstFrom_cons, silent_firstFrom_cons, first]
    split
    · rfl
    · exact ih (index + 1)

private theorem respelled_index {table other : Table P H} (respelled : table.Respelled other)
    (answer : P → Value → Bool) (args : List Value) :
    (other.firstAccepting (Host.silent answer) args).run.map Prod.fst =
      (table.firstAccepting (Host.silent answer) args).run.map Prod.fst := by
  rw [firstAccepting, respelled.config]
  exact indices_alike
    (respelled.bindings.imp fun _ _ pair => Schema.respelled_accepts pair.1 answer args) _ 0

end Table

/-- Where predicates have no effects, the spelling of rules does not decide who handles a call: however
many rules of however many bindings are respelled, and however often, the same index is selected. The
new spellings are in order wherever the old ones were. -/
theorem respelled_tables_select_alike (table other : Table P H) (respelled : table.Respelled other)
    (host : Host P H (StateM σ)) (answer : P → Value → Bool) (args : List Value)
    (state later : σ) :
    let pureHost := host.withAnswers answer
    ((other.firstAccepting pureHost args).run later).1.map Prod.fst =
      ((table.firstAccepting pureHost args).run state).1.map Prod.fst ∧
    ((other.resolve pureHost args).run later).1.index? =
      ((table.resolve pureHost args).run state).1.index? ∧
    (∀ rule spelling : Rule P, rule.Respelled spelling →
      rule.check = .ok () → spelling.check = .ok ()) := by
  intro pureHost
  have found : ((other.firstAccepting pureHost args).run later).1.map Prod.fst =
      ((table.firstAccepting pureHost args).run state).1.map Prod.fst := by
    rw [Table.search_without_effects, Table.search_without_effects]
    exact Table.respelled_index respelled answer args
  refine ⟨found, ?_, fun rule spelling spelled passes => ?_⟩
  · rw [resolve_index, resolve_index, found]
  · rw [Rule.check_ok_iff] at passes ⊢
    exact Rule.respelled_flat spelled passes

/-- Two nulls go to the second of two bindings, in which they meet a nullable member of a union and a
star, and still do when the rules of both bindings are respelled. -/
theorem two_nulls_select_alike :
    let asked : Rule Unit := .predicate ⟨none, ()⟩
    let table : Table Unit Unit := { bindings := [
      ⟨⟨[.tag .number true, .tag .string false]⟩, .native ()⟩,
      ⟨⟨[.union [asked, .tag .string true], .union [.tag .array false, .wildcard]]⟩, .native ()⟩] }
    let other : Table Unit Unit := { bindings := [
      ⟨⟨[.union [.tag .nulled false, .tag .number false], .union [.tag .string false]]⟩, .native ()⟩,
      ⟨⟨[.union [.tag .nulled false, asked, .tag .string false, asked], .wildcard]⟩, .native ()⟩] }
    let host : Host Unit Unit (StateM Unit) :=
      ⟨fun _ _ => pure true, fun _ _ => pure .null, fun _ _ => pure .null, fun _ => pure ()⟩
    let search (table : Table Unit Unit) :=
      ((table.firstAccepting (host.withAnswers fun _ _ => false) [.null, .null]).run ()).1
    table.Respelled other ∧ (search table).map Prod.fst = some 1 ∧
      (search other).map Prod.fst = some 1 := by
  intro asked table other host search
  have number : Rule.Respelled (.tag .number true : Rule Unit)
      (.union [.tag .nulled false, .tag .number false]) :=
    .tail (.single .nullable) (.rearranged fun rule => by simp [or_comm])
  have text : Rule.Respelled (.union [asked, .tag .string true])
      (.union [.tag .nulled false, asked, .tag .string false, asked]) :=
    .tail (.single (@Rule.Respells.spliced Unit [asked] [] .string))
      (.rearranged fun rule => by
        simp only [List.cons_append, List.nil_append, List.mem_cons, List.not_mem_nil, or_false]
        tauto)
  have respelled : table.Respelled other :=
    ⟨rfl, .cons ⟨.cons number (.cons (.single (.wrapped rfl)) .nil), rfl⟩
      (.cons ⟨.cons text (.cons (.single (.starred (by simp))) .nil), rfl⟩ .nil), rfl⟩
  have selected : (search table).map Prod.fst = some 1 := rfl
  have alike := respelled_tables_select_alike table other respelled host (fun _ _ => false)
    [.null, .null] () ()
  exact ⟨respelled, selected, alike.1.trans selected⟩

end Multimethod
