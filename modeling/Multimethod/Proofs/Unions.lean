import Multimethod.Proofs.Constructions

/-!
Unions of rules that may themselves be refused. Each member is checked before the union is, so the same
kind of fault can lie with a member or with the union of all of them; which of the two is reported, and for
which member, is settled by the members in order: `unions_made_exactly`.
-/
namespace Multimethod

variable {P : Type}

namespace Rule

/-- What is wrong with a member by itself: it was refused before, or it is a rule that is not flat. -/
inductive AtFault : Except Error (Rule P) → Error → Prop where
  | refused {error : Error} : AtFault (.error error) error
  | offends {rule : Rule P} {error : Error} (offends : rule.Offends error) : AtFault (.ok rule) error

/-- Why members make no union. -/
inductive Disunited : List (Except Error (Rule P)) → Error → Prop where
  /-- The first member at fault by itself is reported, whatever comes behind it. -/
  | member {before after : List (Except Error (Rule P))} {member : Except Error (Rule P)} {error : Error}
      (sound : ∀ earlier ∈ before, ∃ rule, earlier = .ok rule ∧ rule.Flat) (fault : AtFault member error) :
      Disunited (before ++ member :: after) error
  | empty : Disunited [] .emptyUnion
  /-- Where no member is at fault by itself, the first that is a union is named. -/
  | nested {before after : List (Rule P)} {union : Rule P}
      (flat : ∀ rule ∈ before ++ union :: after, rule.Flat)
      (earlier : ∀ rule ∈ before, rule.isUnion = false) (isUnion : union.isUnion = true) :
      Disunited ((before ++ union :: after).map .ok) (.nestedUnion union.display)

private theorem member_error_iff (member : Except Error (Rule P)) (error : Error) :
    member.bind checked = .error error ↔ AtFault member error := by
  cases member with
  | error reason =>
    constructor
    · intro same
      cases same
      exact .refused
    · rintro ⟨⟩
      rfl
  | ok rule =>
    refine (checked_error_iff rule error).trans ⟨.offends, ?_⟩
    rintro ⟨⟩
    assumption

/-- Members are collected if they are flat rules, and then they are those rules. -/
theorem members_ok_iff (members : List (Except Error (Rule P))) (rules : List (Rule P)) :
    members.mapM (fun member => member.bind checked) = .ok rules ↔
      members = rules.map .ok ∧ ∀ rule ∈ rules, rule.Flat := by
  simp only [collect_ok_iff, result_checked_ok_iff]
  constructor
  · intro pairs
    induction pairs with
    | nil => exact ⟨rfl, fun _ among => absurd among List.not_mem_nil⟩
    | cons pair _ ih =>
      obtain ⟨same, flat⟩ := ih
      exact ⟨by rw [pair.1, same, List.map_cons], List.forall_mem_cons.mpr ⟨pair.2, flat⟩⟩
  · rintro ⟨rfl, flat⟩
    rw [List.forall₂_map_left_iff, List.forall₂_same]
    exact fun rule among => ⟨rfl, flat rule among⟩

/-- Otherwise the first of them at fault is reported. -/
theorem members_error_iff (members : List (Except Error (Rule P))) (error : Error) :
    members.mapM (fun member => member.bind checked) = .error error ↔ ∃ before member after,
      members = before ++ member :: after ∧
      (∀ earlier ∈ before, ∃ rule, earlier = .ok rule ∧ rule.Flat) ∧ AtFault member error := by
  simp only [collect_error_iff, result_checked_ok_iff, member_error_iff]

private theorem unionOf_of_error {members : List (Except Error (Rule P))} {error : Error}
    (refused : members.mapM (fun member => member.bind checked) = .error error) :
    unionOf members = .error error := by
  unfold unionOf
  rw [refused]
  rfl

/-- Flat rules are checked once more, as the members of one union. -/
theorem unionOf_rules {rules : List (Rule P)} (flat : ∀ rule ∈ rules, rule.Flat) :
    unionOf (rules.map .ok) = checked (.union rules) := by
  unfold unionOf
  rw [(members_ok_iff _ rules).mpr ⟨rfl, flat⟩]
  rfl

private theorem unionOf_ok_iff (members : List (Except Error (Rule P))) (union : Rule P) :
    unionOf members = .ok union ↔ ∃ rules, members = rules.map .ok ∧ rules ≠ [] ∧
      (∀ rule ∈ rules, rule.isUnion = false) ∧ union = .union rules := by
  constructor
  · intro made
    obtain ⟨rules, collected, made⟩ := Schema.after_ok made
    obtain ⟨same, -⟩ := (members_ok_iff members rules).mp collected
    obtain ⟨flat, rfl⟩ := (checked_ok_iff _ union).mp made
    exact ⟨rules, same, flat.1, flat.2, rfl⟩
  · rintro ⟨rules, rfl, some_rule, plain, rfl⟩
    rw [unionOf_of_plain plain, if_neg some_rule]

private theorem unionOf_error_iff (members : List (Except Error (Rule P))) (error : Error) :
    unionOf members = .error error ↔ Disunited members error := by
  constructor
  · intro refused
    cases collected : members.mapM fun member => member.bind checked with
    | error reason =>
      rw [unionOf_of_error collected] at refused
      cases refused
      obtain ⟨before, member, after, rfl, sound, fault⟩ := (members_error_iff members error).mp collected
      exact .member sound fault
    | ok rules =>
      obtain ⟨rfl, flat⟩ := (members_ok_iff members rules).mp collected
      rw [unionOf_rules flat, checked_error_iff] at refused
      cases refused with
      | empty => exact .empty
      | nested earlier union => exact .nested flat earlier union
  · intro disunited
    cases disunited with
    | member sound fault =>
      exact unionOf_of_error ((members_error_iff _ error).mpr ⟨_, _, _, rfl, sound, fault⟩)
    | empty => rfl
    | nested flat earlier union =>
      rw [unionOf_rules flat, checked_error_iff]
      exact .nested earlier union

/-- A rule that was made is made again of itself, whatever it was made of. -/
theorem toRule_again {source : Source P} {rule : Rule P} (made : source.toRule = .ok rule) :
    (Source.rule rule).toRule = .ok rule ∧ (Source.result (.ok rule)).toRule = .ok rule := by
  have flat := checked_of_flat (flat_of_source made)
  constructor
  · rw [Source.toRule, flat]
  · rw [Source.toRule]
    exact flat

end Rule

open Rule (Disunited Source unionOf)

/-- A union is made exactly of one member or more each of which is a rule that is no union. Otherwise
the first member that is at fault by itself is reported, and only if there is none such the shape of the
whole. -/
theorem unions_made_exactly (members : List (Except Error (Rule P))) :
    (∀ union, unionOf members = .ok union ↔ ∃ rules, members = rules.map .ok ∧ rules ≠ [] ∧
      (∀ rule ∈ rules, rule.isUnion = false) ∧ union = .union rules) ∧
    (∀ error, unionOf members = .error error ↔ Disunited members error) ∧
    (∀ union, unionOf members = .ok union →
      union.check = .ok () ∧ (Source.rule union).toRule = .ok union) ∧
    ∀ (source : Source P) (rule : Rule P), source.toRule = .ok rule →
      (Source.rule rule).toRule = .ok rule ∧ (Source.result (.ok rule)).toRule = .ok rule := by
  refine ⟨Rule.unionOf_ok_iff members, Rule.unionOf_error_iff members, fun union made => ?_,
    fun _ _ => Rule.toRule_again⟩
  have flat := Rule.flat_of_unionOf made
  refine ⟨(Rule.check_ok_iff union).mpr flat, ?_⟩
  rw [Source.toRule]
  exact Rule.checked_of_flat flat

/-- A member at fault by itself is reported before a member that was refused, and the union last of all. -/
example : unionOf [.ok (.union [.wildcard]), .ok (.union []), .error (.invalidRule "x")] =
    (.error .emptyUnion : Except Error (Rule P)) := rfl

end Multimethod
