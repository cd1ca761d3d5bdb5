import Multimethod.Schema

/-!
Flat rules: no unions within unions, and none without members. Checking rules finds the first that is
not flat and says why, so the schemas that are made of rules have flat rules only, whichever way they
are made: `ofRules_ok_iff`, `ofRules_error_iff` and the lemmas after them.
-/
namespace Multimethod

variable {P : Type}

/-! ### Rules -/

namespace Rule

/-- A rule that is no union, or a union of at least one rule none of which is a union. -/
def Flat : Rule P → Prop
  | .union members => members ≠ [] ∧ ∀ member ∈ members, member.isUnion = false
  | _ => True

/-- What a rule that is not flat is reported for. -/
inductive Offends : Rule P → Error → Prop where
  | empty : Offends (.union []) .emptyUnion
  /-- Of several unions among the members the first is named. -/
  | nested {before after : List (Rule P)} {member : Rule P}
      (earlier : ∀ other ∈ before, other.isUnion = false) (union : member.isUnion = true) :
      Offends (.union (before ++ member :: after)) (.nestedUnion member.display)

/-- What the check makes of a union: the union among its members that comes first decides. -/
theorem check_union (members : List (Rule P)) (some_member : members ≠ []) :
    check (.union members) =
      ((members.find? isUnion).elim (.ok ()) fun nested => .error (.nestedUnion nested.display)) := by
  have filled : members.isEmpty = false := by simpa using some_member
  simp only [check, filled, Bool.false_eq_true, ↓reduceIte]
  cases members.find? isUnion <;> rfl

/-- The check passes the rules that are flat. -/
theorem check_ok_iff (rule : Rule P) : rule.check = .ok () ↔ rule.Flat := by
  cases rule with
  | union members =>
    by_cases some_member : members = []
    · subst some_member
      simp [check, Flat]
    · rw [check_union members some_member]
      cases nested : members.find? isUnion with
      | none =>
        have flat := List.find?_eq_none.mp nested
        simpa [Flat, some_member] using flat
      | some member =>
        have belongs := List.mem_of_find?_eq_some nested
        have union := List.find?_some nested
        refine ⟨fun same => absurd same (by simp), fun flat => ?_⟩
        exact absurd union (by simp [flat.2 member belongs])
  | _ => simp [check, Flat]

/-- It says of the others what they are reported for. -/
theorem check_error_iff (rule : Rule P) (error : Error) :
    rule.check = .error error ↔ rule.Offends error := by
  constructor
  · intro refused
    cases rule with
    | union members =>
      by_cases some_member : members = []
      · subst some_member
        cases refused
        exact .empty
      · rw [check_union members some_member] at refused
        cases nested : members.find? isUnion with
        | none => simp [nested] at refused
        | some member =>
          obtain ⟨union, before, after, rfl, earlier⟩ := List.find?_eq_some_iff_append.mp nested
          rw [nested] at refused
          cases refused
          exact .nested (fun other among => by simpa using earlier other among) union
    | _ => cases refused
  · intro offends
    cases offends with
    | empty => rfl
    | @nested before after member earlier union =>
      have first : (before ++ member :: after).find? isUnion = some member :=
        List.find?_eq_some_iff_append.mpr
          ⟨union, before, after, rfl, fun other among => by simp [earlier other among]⟩
      rw [check_union _ (by simp), first]
      rfl

end Rule

/-! ### Schemas -/

namespace Schema

/-- A schema all of whose rules are flat. -/
def Flat (schema : Schema P) : Prop :=
  ∀ rule ∈ schema.rules, rule.Flat

section

variable {α : Type} (step : α → Except Error Unit)

theorem walk_cons (item : α) (rest : List α) :
    (item :: rest).forM step = (step item).bind fun _ => rest.forM step := rfl

/-- A walk over a list ends well if all steps of it do. -/
theorem walk_ok_iff (items : List α) :
    items.forM step = .ok () ↔ ∀ item ∈ items, step item = .ok () := by
  induction items with
  | nil => exact ⟨fun _ _ member => absurd member List.not_mem_nil, fun _ => rfl⟩
  | cons item rest ih =>
    rw [walk_cons, List.forall_mem_cons, ← ih]
    cases step item <;> simp [Except.bind]

/-- Otherwise it ends with the first step that does not. -/
theorem walk_error_iff (items : List α) (error : Error) :
    items.forM step = .error error ↔ ∃ before item after, items = before ++ item :: after ∧
      (∀ earlier ∈ before, step earlier = .ok ()) ∧ step item = .error error := by
  induction items with
  | nil =>
    refine ⟨fun same => (nomatch same), ?_⟩
    rintro ⟨before, item, after, same, -⟩
    exact absurd same (by simp)
  | cons item rest ih =>
    rw [walk_cons]
    cases taken : step item with
    | error reason =>
      constructor
      · intro same
        cases same
        exact ⟨[], item, rest, rfl, fun _ member => absurd member List.not_mem_nil, taken⟩
      · rintro ⟨before, other, after, split, well, refused⟩
        cases before with
        | nil =>
          cases split
          exact taken.symm.trans refused
        | cons first before =>
          cases split
          exact absurd (well item List.mem_cons_self) (by simp [taken])
    | ok passed =>
      simp only [Except.bind, ih]
      constructor
      · rintro ⟨before, other, after, rfl, well, refused⟩
        exact ⟨item :: before, other, after, rfl, List.forall_mem_cons.mpr ⟨taken, well⟩, refused⟩
      · rintro ⟨before, other, after, split, well, refused⟩
        cases before with
        | nil =>
          cases split
          exact absurd refused (by simp [taken])
        | cons first before =>
          cases split
          exact ⟨before, other, after, rfl, (List.forall_mem_cons.mp well).2, refused⟩

end

/-- Rules make a schema exactly if they are flat, and then they are the rules of that schema. -/
theorem ofRules_ok_iff (rules : List (Rule P)) (schema : Schema P) :
    ofRules rules = .ok schema ↔ (∀ rule ∈ rules, rule.Flat) ∧ schema = ⟨rules⟩ := by
  have walk : rules.forM Rule.check = .ok () ↔ ∀ rule ∈ rules, rule.Flat := by
    simp only [walk_ok_iff, Rule.check_ok_iff]
  rw [← walk, ofRules]
  cases rules.forM Rule.check with
  | error error => simp [bind, Except.bind]
  | ok passed => simp [bind, Except.bind, pure, Except.pure, eq_comm]

/-- Otherwise the first of them that is not flat is reported. -/
theorem ofRules_error_iff (rules : List (Rule P)) (error : Error) :
    ofRules rules = .error error ↔ ∃ before rule after, rules = before ++ rule :: after ∧
      (∀ earlier ∈ before, earlier.Flat) ∧ rule.Offends error := by
  have walk := walk_error_iff Rule.check rules error
  simp only [Rule.check_ok_iff, Rule.check_error_iff] at walk
  rw [← walk, ofRules]
  cases rules.forM Rule.check with
  | error reason => simp [bind, Except.bind]
  | ok passed => simp [bind, Except.bind, pure, Except.pure]

example : Schema.ofRules [.wildcard, .union [.wildcard, .union [.wildcard]], (.union [] : Rule P)] =
    .error (.nestedUnion "*") := rfl

/-! ### Other ways to make a schema -/

theorem after_ok {α β : Type} {first : Except Error α} {rest : α → Except Error β} {result : β}
    (made : first >>= rest = .ok result) : ∃ part, first = .ok part ∧ rest part = .ok result := by
  cases first with
  | error error => cases made
  | ok part => exact ⟨part, rfl, made⟩

theorem flat_of_ofRules {rules : List (Rule P)} {schema : Schema P}
    (made : ofRules rules = .ok schema) : schema.Flat := by
  obtain ⟨flat, rfl⟩ := (ofRules_ok_iff rules schema).mp made
  exact flat

theorem flat_empty : (Schema.empty : Schema P).Flat :=
  fun _ member => absurd member List.not_mem_nil

theorem flat_of_ofResults {results : List (Except Error (Rule P))} {schema : Schema P}
    (made : ofResults results = .ok schema) : schema.Flat := by
  obtain ⟨rules, -, made⟩ := after_ok made
  exact flat_of_ofRules made

theorem flat_of_ofSources {sources : List (Rule.Source P)} {schema : Schema P}
    (made : ofSources sources = .ok schema) : schema.Flat :=
  flat_of_ofResults made

theorem flat_of_ofJsonRules {documents : List Json} {schema : Schema P}
    (made : ofJsonRules documents = .ok schema) : schema.Flat := by
  obtain ⟨rules, -, made⟩ := after_ok made
  exact flat_of_ofRules made

theorem flat_of_ofJson {document : Json} {schema : Schema P}
    (made : ofJson document = .ok schema) : schema.Flat := by
  cases document with
  | array documents => exact flat_of_ofJsonRules made
  | _ => cases made

end Schema

end Multimethod
