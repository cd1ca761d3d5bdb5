import Mathlib.Data.List.Basic
import Multimethod.Proofs.Questions

/-!
Which values a rule accepts, whatever its shape. Unions may stand within unions and may have no members, as
no check would let them; what counts is the row of the leaves. `classified_by_leaves` settles the answer,
the predicates that are run for it, and the rules that have no leaves.
-/
namespace Multimethod

variable {P H σ : Type}

private theorem any_upToFirst {α : Type} (hit : α → Bool) (items : List α) :
    (upToFirst hit items).any hit = items.any hit := by
  induction items with
  | nil => rfl
  | cons item rest ih =>
    rw [upToFirst_cons, List.any_cons, List.any_cons]
    cases hits : hit item with
    | true => rfl
    | false => rw [if_neg Bool.false_ne_true, ih]

namespace Rule

/-! ### Rules without leaves -/

/-- A union of unions and so on, in which there is nothing but unions. -/
inductive Hollow : Rule P → Prop where
  | union {members : List (Rule P)} (each : ∀ member ∈ members, Hollow member) :
      Hollow (.union members)

mutual

private theorem leaves_eq_nil_iff : (rule : Rule P) → (rule.leaves = [] ↔ rule.Hollow)
  | .tag t nullable => ⟨fun none => (nomatch none), fun hollow => nomatch hollow⟩
  | .wildcard => ⟨fun none => (nomatch none), fun hollow => nomatch hollow⟩
  | .cls c => ⟨fun none => (nomatch none), fun hollow => nomatch hollow⟩
  | .predicate p => ⟨fun none => (nomatch none), fun hollow => nomatch hollow⟩
  | .union members => by
    rw [leaves, leavesOfEach_eq_nil_iff members]
    constructor
    · exact .union
    · intro hollow
      cases hollow with
      | union each => exact each

private theorem leavesOfEach_eq_nil_iff : (rules : List (Rule P)) →
    (leavesOfEach rules = [] ↔ ∀ rule ∈ rules, rule.Hollow)
  | [] => by simp [leavesOfEach]
  | rule :: rest => by
    rw [leavesOfEach, List.append_eq_nil_iff, leaves_eq_nil_iff rule, leavesOfEach_eq_nil_iff rest,
      List.forall_mem_cons]

end

/-- A rule without leaves accepts nothing, and nobody is asked. -/
theorem accepts_of_hollow {m : Type → Type} [Monad m] [LawfulMonad m] {rule : Rule P}
    (hollow : rule.Hollow) (test : P → Value → m Bool) (value : Value) :
    rule.accepts test value = pure false := by
  rw [accepts_eq_any_leaves, (leaves_eq_nil_iff rule).mpr hollow, anyAccepts]

/-! ### Rules with leaves -/

/-- Without effects a rule accepts what one of its leaves accepts. -/
theorem accepts_iff_leaf (answer : P → Value → Bool) (value : Value) (rule : Rule P) :
    (rule.accepts (m := Id) answer value).run = true ↔
      ∃ leaf ∈ rule.leaves, (leaf.accepts (m := Id) answer value).run = true := by
  rw [accepts_eq_any_leaves, anyAccepts_iff_satisfied]
  simp only [accepts_iff_satisfied]

/-- What a leaf asks of a value: itself if it is a predicate, else nothing. -/
def leafQuestion? (value : Value) (leaf : Annotated (Rule P) Bool) : Option (P × Value × Bool) :=
  leaf.item.predicate?.map fun predicate => (predicate, value, leaf.answers)

private theorem recorded_leafAsked (binding position : Nat) (value : Value) (leaf : Annotated (Rule P) Bool) :
    (leafAsked binding position value leaf).map Question.recorded = (leafQuestion? value leaf).toList := by
  unfold leafAsked leafQuestion?
  cases leaf.item.predicate? <;> rfl

/-- With effects a rule goes through its leaves up to the first that accepts. -/
theorem accepts_asks_leaves (host : Host P H (StateM σ)) (value : Value) (rule : Rule P)
    (watched : Watched P H σ) :
    ∃ answers : Nat → Bool, Asks (rule.accepts host.watched.test value) watched
      ((upToFirst (leafHolds value) (annotate answers 0 rule.leaves)).any (leafHolds value))
      ((upToFirst (leafHolds value) (annotate answers 0 rule.leaves)).filterMap
        (leafQuestion? value)) := by
  obtain ⟨answers, asks⟩ := rule_asks host 0 0 value rule watched
  refine ⟨answers, ?_⟩
  rw [any_upToFirst, List.filterMap_eq_flatMap_toList]
  simpa only [holds, asked, List.map_flatMap, recorded_leafAsked] using asks

end Rule

/-- A rule of any shape accepts a value exactly if one of its leaves does. Asking it is asking the
predicates among the leaves up to the first that accepts, from left to right, whatever effects they
have. -/
theorem classified_by_leaves (rule : Rule P) (value : Value) (host : Host P H (StateM σ)) (state : σ) :
    (∀ answer : P → Value → Bool, (rule.accepts (m := Id) answer value).run = true ↔
      ∃ leaf ∈ rule.leaves, (leaf.accepts (m := Id) answer value).run = true) ∧
    (∀ leaf ∈ rule.leaves, leaf.isUnion = false) ∧
    (rule.leaves = [] ↔ rule.Hollow) ∧
    (rule.Hollow → ∀ {m : Type → Type} [Monad m] [LawfulMonad m] (test : P → Value → m Bool),
      rule.accepts test value = pure false) ∧
    (∀ {m : Type → Type} [Monad m] [LawfulMonad m] (test : P → Value → m Bool),
      (Rule.union rule.leaves).accepts test value = rule.accepts test value) ∧
    let run := (rule.accepts host.watched.test value).run ⟨state, []⟩
    (rule.accepts host.test value).run state = (run.1, run.2.state) ∧
    ∃ answers : Nat → Bool,
      let reached := upToFirst (Rule.leafHolds value) (annotate answers 0 rule.leaves)
      run.1 = reached.any (Rule.leafHolds value) ∧
      Request.questions run.2.requests = reached.filterMap (Rule.leafQuestion? value) ∧
      reached.Pairwise fun first second => first.index < second.index := by
  refine ⟨fun answer => Rule.accepts_iff_leaf answer value rule, fun _ => Rule.plain_of_mem_leaves,
    Rule.leaves_eq_nil_iff rule, fun hollow {m} _ _ test => Rule.accepts_of_hollow hollow test value,
    fun test => Rule.accepts_union_leaves test value rule, ?_, ?_⟩
  · exact (unwatched P H σ).accepts_alike (fun _ _ _ => rfl) value rule ⟨state, []⟩
  · obtain ⟨answers, answered, asked⟩ := Rule.accepts_asks_leaves host value rule ⟨state, []⟩
    exact ⟨answers, answered, asked, (annotate_increasing _ _ _).sublist (upToFirst_sublist _ _)⟩

/-- Unions of nothing but unions accept nothing, and a predicate that counts its runs is not run. -/
theorem hollow_union_asks_nobody :
    let hollow : Rule Unit := .union [.union [], .union [.union []]]
    let counted : Unit → Value → StateM Nat Bool := fun _ _ count => (true, count + 1)
    hollow.Hollow ∧ (hollow.accepts counted .null).run 0 = (false, 0) := by
  intro hollow counted
  have empty : (Rule.union [] : Rule Unit).Hollow := .union (by simp)
  have nested : hollow.Hollow := .union (by simp [empty, Rule.Hollow.union])
  let host : Host Unit Unit (StateM Nat) :=
    ⟨counted, fun _ _ => pure .null, fun _ _ => pure .null, fun _ => pure ()⟩
  have refuses := (classified_by_leaves hollow .null host 0).2.2.2.1 nested counted
  exact ⟨nested, by rw [refuses]; rfl⟩

/-- Members are asked through the unions that they stand in, up to the first that accepts. -/
example :
    let inner : Rule Nat := .union [.predicate ⟨none, 4⟩, .union [.predicate ⟨none, 5⟩]]
    let rule : Rule Nat := .union [.union [], inner, .predicate ⟨none, 6⟩]
    let logged : Nat → Value → StateM (List Nat) Bool := fun p _ log => (p == 5, log ++ [p])
    (rule.accepts logged .null).run [] = (true, [4, 5]) := by
  rfl

end Multimethod
