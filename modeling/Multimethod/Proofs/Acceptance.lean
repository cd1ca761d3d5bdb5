import Mathlib.Data.List.Induction
import Multimethod.Schema

/-!
Which calls a schema accepts, said position by position and without the order in which rules are
asked. Dropping nulls at the end of a call never shows: `accepts_eq_each` settles this for tests
with any effects, and `accepts_iff_admits` settles the answer where tests have none.
-/
namespace Multimethod

/-- The argument at a position of a call; one that is absent counts as null. -/
def argumentAt (args : List Value) (position : Nat) : Value :=
  args.getD position .null

@[simp] theorem argumentAt_nil (position : Nat) : argumentAt [] position = .null := rfl

theorem head_eq_argumentAt (args : List Value) : args.headD .null = argumentAt args 0 := by
  cases args <;> rfl

theorem argumentAt_tail (args : List Value) (position : Nat) :
    argumentAt args.tail position = argumentAt args (position + 1) := by
  cases args <;> rfl

private theorem argumentAt_beyond {args : List Value} {position : Nat} (beyond : args.length ≤ position) :
    argumentAt args position = .null := by
  rw [argumentAt, List.getD_eq_getElem?_getD, List.getElem?_eq_none beyond, Option.getD_none]

/-- Nulls behind a call do not change what stands at any position. -/
theorem argumentAt_append_nulls (args : List Value) (count position : Nat) :
    argumentAt (args ++ List.replicate count .null) position = argumentAt args position := by
  simp only [argumentAt, List.getD_eq_getElem?_getD, List.getElem?_append]
  split
  · rfl
  · rename_i outside
    rw [List.getElem?_eq_none (Nat.le_of_not_lt outside), List.getElem?_replicate]
    split <;> rfl

/-- Null is the one value of its kind. -/
theorem Value.isNull_iff {value : Value} : value.isNull = true ↔ value = .null := by
  cases value <;> simp [Value.isNull]

namespace Schema

variable {P : Type}

/-! ### Nulls at the end -/

theorem dropNulls_concat (args : List Value) (last : Value) :
    dropNulls (args ++ [last]) = if last.isNull then dropNulls args else args ++ [last] := by
  simp only [dropNulls, List.reverse_append, List.reverse_singleton, List.singleton_append,
    List.dropWhile_cons]
  split <;> simp

/-- What is dropped from the end of a call is nulls. -/
theorem dropNulls_append_nulls (args : List Value) :
    ∃ count, args = dropNulls args ++ List.replicate count .null := by
  induction args using List.reverseRecOn with
  | nil => exact ⟨0, rfl⟩
  | append_singleton args last ih =>
    rw [dropNulls_concat]
    split
    · rename_i null
      obtain ⟨count, same⟩ := ih
      refine ⟨count + 1, ?_⟩
      rw [Value.isNull_iff.mp null, List.replicate_succ', ← List.append_assoc, ← same]
    · exact ⟨0, by simp⟩

/-- What is left of a call ends with its last argument that is not null. -/
theorem length_dropNulls_le_iff (args : List Value) (bound : Nat) :
    (dropNulls args).length ≤ bound ↔ ∀ position, bound ≤ position → argumentAt args position = .null := by
  induction args using List.reverseRecOn with
  | nil => simp [dropNulls]
  | append_singleton args last ih =>
    rw [dropNulls_concat]
    split
    · rename_i null
      rw [ih, Value.isNull_iff.mp null]
      simp only [show [Value.null] = List.replicate 1 .null from rfl, argumentAt_append_nulls]
    · rename_i solid
      constructor
      · intro short position beyond
        exact argumentAt_beyond (Nat.le_trans short beyond)
      · intro nulls
        by_contra long
        have standing : argumentAt (args ++ [last]) args.length = last := by simp [argumentAt]
        simp only [List.length_append, List.length_singleton] at long
        exact solid (Value.isNull_iff.mpr (standing.symm.trans (nulls _ (by omega))))

/-! ### How many arguments take part -/

/-- No argument beyond the rules of a schema is anything but null. -/
def Fits (schema : Schema P) (args : List Value) : Prop :=
  ∀ position, schema.length ≤ position → argumentAt args position = .null

instance (schema : Schema P) (args : List Value) : Decidable (schema.Fits args) :=
  decidable_of_iff _ (length_dropNulls_le_iff args schema.length)

/-- A short call fits. -/
theorem fits_of_length_le {schema : Schema P} {args : List Value}
    (short : args.length ≤ schema.length) : schema.Fits args := by
  intro position beyond
  exact argumentAt_beyond (Nat.le_trans short beyond)

/-- The arity is refused exactly where something solid stands beyond the rules. -/
theorem arity_none_iff (schema : Schema P) (args : List Value) :
    schema.arity? args = none ↔ ¬ schema.Fits args := by
  by_cases short : args.length ≤ schema.length
  · simp [arity?, short, fits_of_length_le short]
  · simp only [arity?, short, ↓reduceIte, ite_eq_right_iff, reduceCtorEq, imp_false]
    exact not_congr (length_dropNulls_le_iff args schema.length)

/-- The arguments that take part stand where they stood, with nothing but nulls left out. -/
theorem argumentAt_take_arity {schema : Schema P} {args : List Value} {count : Nat}
    (taken : schema.arity? args = some count) (position : Nat) :
    argumentAt (args.take count) position = argumentAt args position := by
  by_cases short : args.length ≤ schema.length
  · simp only [arity?, short, ↓reduceIte, Option.some.injEq] at taken
    rw [← taken, List.take_length]
  · simp only [arity?, short, ↓reduceIte, Option.ite_none_right_eq_some, Option.some.injEq] at taken
    obtain ⟨nulls, split⟩ := dropNulls_append_nulls args
    have kept : args.take count = dropNulls args := calc
      args.take count
        = (dropNulls args ++ List.replicate nulls Value.null).take (dropNulls args).length := by
          rw [← split, taken.2]
      _ = dropNulls args := List.take_left
    rw [kept]
    conv_rhs => rw [split]
    exact (argumentAt_append_nulls _ _ _).symm

/-! ### Asking the rules -/

variable {m : Type → Type} [Monad m]

/-- Rules see of a call what stands at their positions and nothing else. -/
theorem eachAccepts_congr (test : P → Value → m Bool) (rules : List (Rule P))
    {args args' : List Value} (same : ∀ position, argumentAt args position = argumentAt args' position) :
    eachAccepts test rules args = eachAccepts test rules args' := by
  induction rules generalizing args args' with
  | nil => simp only [eachAccepts]
  | cons rule rules ih =>
    have tails : ∀ position, argumentAt args.tail position = argumentAt args'.tail position := by
      intro position
      simpa only [argumentAt_tail] using same (position + 1)
    simp only [eachAccepts, head_eq_argumentAt, same 0, ih tails]

/-- A schema asks its rules about the whole call if the call fits, and about nothing otherwise. -/
theorem accepts_eq_each (test : P → Value → m Bool) (schema : Schema P) (args : List Value) :
    schema.accepts test args =
      if schema.Fits args then eachAccepts test schema.rules args else pure false := by
  unfold accepts
  cases taken : schema.arity? args with
  | none => rw [if_neg ((arity_none_iff schema args).mp taken)]
  | some count =>
    have fits : schema.Fits args := by
      by_contra stretched
      rw [(arity_none_iff schema args).mpr stretched] at taken
      cases taken
    rw [if_pos fits]
    exact eachAccepts_congr test schema.rules (argumentAt_take_arity taken)

end Schema

/-! ### Without effects -/

variable {P : Type}

/-- What it means for a value to satisfy a rule, where predicates answer as given. No order among
the members of a union enters into it. -/
inductive Rule.Satisfied (answer : P → Value → Bool) : Rule P → Value → Prop where
  | tag {t : Tag} {nullable : Bool} {value : Value} (belongs : t.accepts value = true) :
      Satisfied answer (.tag t nullable) value
  | absent {t : Tag} : Satisfied answer (.tag t true) .null
  | anything {value : Value} : Satisfied answer .wildcard value
  | ofClass {c : Class} {value : Value} (inherits : value.isInstanceOf c = true) :
      Satisfied answer (.cls c) value
  | predicate {p : Predicate P} {value : Value} (agrees : answer p.test value = true) :
      Satisfied answer (.predicate p) value
  | member {members : List (Rule P)} {rule : Rule P} {value : Value} (belongs : rule ∈ members)
      (satisfied : Satisfied answer rule value) : Satisfied answer (.union members) value

/-- A schema admits a call if nothing solid stands beyond its rules and each rule is satisfied by
what stands at its position. -/
def Schema.Admits (answer : P → Value → Bool) (schema : Schema P) (args : List Value) : Prop :=
  schema.Fits args ∧ ∀ (position : Nat) (rule : Rule P), schema.rules[position]? = some rule →
    rule.Satisfied answer (argumentAt args position)

mutual

theorem accepts_iff_satisfied (answer : P → Value → Bool) (value : Value) : (rule : Rule P) →
    ((rule.accepts (m := Id) answer value).run = true ↔ rule.Satisfied answer value)
  | .tag t nullable => by
    simp only [Rule.accepts, Id.run_pure, Bool.or_eq_true, Bool.and_eq_true, Value.isNull_iff]
    constructor
    · rintro (⟨rfl, rfl⟩ | belongs)
      · exact .absent
      · exact .tag belongs
    · intro satisfied
      cases satisfied with
      | tag belongs => exact .inr belongs
      | absent => exact .inl ⟨rfl, rfl⟩
  | .wildcard => by
    simp only [Rule.accepts, Id.run_pure, true_iff]
    exact .anything
  | .cls c => by
    simp only [Rule.accepts, Id.run_pure]
    refine ⟨.ofClass, fun satisfied => ?_⟩
    cases satisfied with
    | ofClass inherits => exact inherits
  | .predicate p => by
    simp only [Rule.accepts]
    refine ⟨.predicate, fun satisfied => ?_⟩
    cases satisfied with
    | predicate agrees => exact agrees
  | .union members => by
    simp only [Rule.accepts, anyAccepts_iff_satisfied answer value members]
    constructor
    · rintro ⟨rule, belongs, satisfied⟩
      exact .member belongs satisfied
    · intro satisfied
      cases satisfied with
      | member belongs satisfied => exact ⟨_, belongs, satisfied⟩

theorem anyAccepts_iff_satisfied (answer : P → Value → Bool) (value : Value) :
    (rules : List (Rule P)) → ((Rule.anyAccepts (m := Id) answer rules value).run = true ↔
      ∃ rule ∈ rules, rule.Satisfied answer value)
  | [] => by simp [Rule.anyAccepts]
  | rule :: rest => by
    have first := accepts_iff_satisfied answer value rule
    have others := anyAccepts_iff_satisfied answer value rest
    simp only [Rule.anyAccepts, Id.run_bind, List.mem_cons, exists_eq_or_imp, ← first, ← others]
    cases (rule.accepts (m := Id) answer value).run <;> simp

end

private theorem eachAccepts_iff_satisfied (answer : P → Value → Bool) (rules : List (Rule P))
    (args : List Value) : (Schema.eachAccepts (m := Id) answer rules args).run = true ↔
      ∀ (position : Nat) (rule : Rule P), rules[position]? = some rule →
        rule.Satisfied answer (argumentAt args position) := by
  induction rules generalizing args with
  | nil => simp [Schema.eachAccepts]
  | cons rule rules ih =>
    simp only [Schema.eachAccepts, Id.run_bind, head_eq_argumentAt]
    have first := accepts_iff_satisfied answer (argumentAt args 0) rule
    cases accepted : (rule.accepts (m := Id) answer (argumentAt args 0)).run with
    | true =>
      simp only [↓reduceIte, ih, argumentAt_tail]
      constructor
      · intro others position standing found
        cases position with
        | zero =>
          cases found
          exact first.mp accepted
        | succ position => exact others position standing found
      · exact fun all position standing found => all (position + 1) standing found
    | false =>
      simp only [Bool.false_eq_true, ↓reduceIte, Id.run_pure, false_iff]
      intro all
      exact absurd (first.mpr (all 0 rule rfl)) (by simp [accepted])

/-- Without effects a schema accepts exactly the calls that it admits. -/
theorem accepts_iff_admits (answer : P → Value → Bool) (schema : Schema P) (args : List Value) :
    (schema.accepts (m := Id) answer args).run = true ↔ schema.Admits answer args := by
  rw [Schema.accepts_eq_each, Schema.Admits]
  split
  · rename_i fits
    rw [eachAccepts_iff_satisfied]
    exact (and_iff_right fits).symm
  · rename_i stretched
    simp [stretched]

end Multimethod
