import Multimethod.Proofs.Acceptance

/-!
How many arguments take part in a call, argument by argument. The nulls at the end of a long call are found
by looking back from its last argument, which never goes beyond the call (`walkedArity_eq`), and what is
counted then ends with the last argument that is not null (`endsAt_dropNulls`). Leaving nulls out never
shows, so where predicates have no effects a schema accepts a call exactly if something is counted and each
rule accepts what stands at its position in the call as it was made: `arity_by_position`.
-/
namespace Multimethod

namespace Schema

variable {P : Type}

/-! ### Looking back -/

/-- How many arguments are left in front of the nulls, looking back from a position one argument at a time.
Nothing comes of looking at an argument that is not there. -/
def walkBack? (args : List Value) : Nat → Option Nat
  | 0 => some 0
  | count + 1 =>
    match args[count]? with
    | none => none
    | some arg => if arg.isNull then walkBack? args count else some (count + 1)

/-- The arity of a call by looking back, which is done only where the call has more arguments than there are
rules. -/
def walkedArity? (schema : Schema P) (args : List Value) : Option (Option Nat) :=
  (if args.length ≤ schema.length then some args.length else walkBack? args args.length).map
    fun count => if count ≤ schema.length then some count else none

private theorem walkBack_eq {args : List Value} {count : Nat} (inside : count ≤ args.length) :
    walkBack? args count = some (dropNulls (args.take count)).length := by
  induction count with
  | zero => rfl
  | succ count ih =>
    have front : args.take (count + 1) = args.take count ++ [args[count]] :=
      List.take_succ_eq_append_getElem inside
    rw [walkBack?, List.getElem?_eq_getElem inside, front, dropNulls_concat]
    dsimp only
    split
    · exact ih (Nat.le_of_succ_le inside)
    · rw [List.length_append, List.length_take_of_le (Nat.le_of_succ_le inside), List.length_singleton]

/-- Looking back comes to the arity and never goes beyond the call. -/
theorem walkedArity_eq (schema : Schema P) (args : List Value) :
    schema.walkedArity? args = some (schema.arity? args) := by
  unfold walkedArity? arity?
  rw [walkBack_eq (Nat.le_refl _), List.take_length]
  split <;> rfl

/-! ### The last argument that counts -/

/-- A call is nothing but nulls from here on, and what stands in front of here, if anything does, is not
null. -/
inductive EndsAt (args : List Value) : Nat → Prop where
  | start (nulls : ∀ arg ∈ args, arg = .null) : EndsAt args 0
  | behind {last : Nat} {arg : Value} (standing : args[last]? = some arg) (solid : arg ≠ .null)
      (nulls : ∀ later other, last < later → args[later]? = some other → other = .null) :
      EndsAt args (last + 1)

private theorem endsAt_append_null {args : List Value} {count : Nat} (ends : EndsAt args count) :
    EndsAt (args ++ [.null]) count := by
  cases ends with
  | start nulls =>
    refine .start fun arg among => ?_
    rcases List.mem_append.mp among with earlier | last
    · exact nulls arg earlier
    · exact List.mem_singleton.mp last
  | @behind last arg standing solid nulls =>
    have inside : last < args.length := (List.getElem?_eq_some_iff.mp standing).1
    refine .behind ((List.getElem?_append_left inside).trans standing) solid ?_
    intro later other behind there
    by_cases within : later < args.length
    · rw [List.getElem?_append_left within] at there
      exact nulls later other behind there
    · rw [List.getElem?_append_right (Nat.le_of_not_lt within)] at there
      exact List.mem_singleton.mp (List.mem_of_getElem? there)

/-- What is left of a call without the nulls at its end goes up to the last argument that is none. -/
theorem endsAt_dropNulls (args : List Value) : EndsAt args (dropNulls args).length := by
  induction args using List.reverseRecOn with
  | nil => exact .start fun arg among => absurd among List.not_mem_nil
  | append_singleton args last ih =>
    rw [dropNulls_concat]
    split
    · rename_i null
      rw [Value.isNull_iff.mp null]
      exact endsAt_append_null ih
    · rename_i solid
      rw [List.length_append, List.length_singleton]
      refine .behind List.getElem?_concat_length (mt Value.isNull_iff.mpr solid) ?_
      intro later other behind there
      have inside := (List.getElem?_eq_some_iff.mp there).1
      rw [List.length_append, List.length_singleton] at inside
      omega

/-- From where a call ends on there are nulls only. -/
theorem EndsAt.nulls {args : List Value} {count : Nat} (ends : EndsAt args count) {position : Nat}
    {arg : Value} (beyond : count ≤ position) (standing : args[position]? = some arg) : arg = .null := by
  cases ends with
  | start nulls => exact nulls arg (List.mem_of_getElem? standing)
  | behind _ _ nulls => exact nulls position arg beyond standing

/-! ### The arity -/

private theorem argumentAt_null_iff (args : List Value) (position : Nat) :
    argumentAt args position = .null ↔ ∀ arg, args[position]? = some arg → arg = .null := by
  rw [argumentAt, List.getD_eq_getElem?_getD]
  cases args[position]? <;> simp

/-- Nothing is counted exactly where an argument beyond the rules is not null. -/
theorem arity_none_iff_solid (schema : Schema P) (args : List Value) :
    schema.arity? args = none ↔ ∃ position arg,
      schema.length ≤ position ∧ args[position]? = some arg ∧ arg ≠ .null := by
  simp only [arity_none_iff, Fits, argumentAt_null_iff, not_forall]
  constructor
  · rintro ⟨position, beyond, arg, standing, solid⟩
    exact ⟨position, arg, beyond, standing, solid⟩
  · rintro ⟨position, arg, beyond, standing, solid⟩
    exact ⟨position, beyond, arg, standing, solid⟩

private theorem arity_short {schema : Schema P} {args : List Value} (short : args.length ≤ schema.length) :
    schema.arity? args = some args.length := by
  simp only [arity?, short, ↓reduceIte]

private theorem arity_long {schema : Schema P} {args : List Value} {count : Nat}
    (long : schema.length < args.length) (counted : schema.arity? args = some count) :
    count = (dropNulls args).length ∧ count ≤ schema.length := by
  simp only [arity?, Nat.not_le.mpr long, ↓reduceIte, Option.ite_none_right_eq_some,
    Option.some.injEq] at counted
  obtain ⟨fits, rfl⟩ := counted
  exact ⟨rfl, fits⟩

private theorem arity_le {schema : Schema P} {args : List Value} {count : Nat}
    (counted : schema.arity? args = some count) : count ≤ min schema.length args.length := by
  rcases Nat.lt_or_ge schema.length args.length with long | short
  · obtain ⟨-, fits⟩ := arity_long long counted
    omega
  · rw [arity_short short] at counted
    cases counted
    omega

end Schema

/-- What is counted of a call reaches to its last argument that is not null, or is all of it where there
is a rule for each argument; nothing is counted exactly where an argument beyond the rules is not null.
A schema then accepts a call as its rules accept what stands at each position of the whole call. -/
theorem arity_by_position {P : Type} (schema : Schema P) (args : List Value)
    (answer : P → Value → Bool) :
    schema.walkedArity? args = some (schema.arity? args) ∧
    (schema.arity? args = none ↔ ∃ position arg,
      schema.length ≤ position ∧ args[position]? = some arg ∧ arg ≠ .null) ∧
    (∀ count, schema.arity? args = some count →
      count ≤ min schema.length args.length ∧
      (args.length ≤ schema.length → count = args.length) ∧
      (schema.length < args.length → Schema.EndsAt args count ∧
        ∀ position arg, count ≤ position → args[position]? = some arg → arg = .null)) ∧
    ((schema.accepts (m := Id) answer args).run = true ↔
      schema.arity? args ≠ none ∧ ∀ (position : Nat) (rule : Rule P),
        schema.rules[position]? = some rule →
          (rule.accepts (m := Id) answer (args.getD position .null)).run = true) := by
  refine ⟨schema.walkedArity_eq args, schema.arity_none_iff_solid args, fun count counted =>
    ⟨Schema.arity_le counted, fun short => ?_, fun long => ?_⟩, ?_⟩
  · rw [Schema.arity_short short] at counted
    exact (Option.some.inj counted).symm
  · obtain ⟨rfl, -⟩ := Schema.arity_long long counted
    have ends := Schema.endsAt_dropNulls args
    exact ⟨ends, fun position arg beyond standing => ends.nulls beyond standing⟩
  · rw [accepts_iff_admits, Schema.Admits, ne_eq, schema.arity_none_iff, not_not]
    simp only [accepts_iff_satisfied]
    rfl

end Multimethod
