import Mathlib.Data.List.Induction
import Mathlib.Data.List.Nodup
import Mathlib.Data.String.Basic
import Multimethod.Json

/-!
Members by their keys. What a list of members holds under a key decides everything about it once its
keys ascend: two such lists that hold the same are the same (`ascending_ext`). Sorting members makes
their keys ascend, keeps what they hold (`get?_sortMembers`), and so forgets their order and nothing
else.
-/
namespace Multimethod

variable {α β : Type}

/-! ### Looking up -/

namespace Fields

theorem get?_none_iff {fields : Fields α} {key : String} :
    fields.get? key = none ↔ key ∉ fields.keys := by
  induction fields with
  | nil => simp [get?, keys]
  | cons field rest ih =>
    obtain ⟨k, held⟩ := field
    simp only [keys] at ih
    by_cases same : k = key
    · simp [get?, keys, same]
    · simp [get?, keys, same, ih, Ne.symm same]

theorem mem_of_get? {fields : Fields α} {key : String} {item : α}
    (found : fields.get? key = some item) : (key, item) ∈ fields := by
  induction fields with
  | nil => cases found
  | cons field rest ih =>
    obtain ⟨k, held⟩ := field
    by_cases same : k = key
    · simp only [get?, same, ↓reduceIte, Option.some.injEq] at found
      rw [same, found]
      exact List.mem_cons_self
    · simp only [get?, same, ↓reduceIte] at found
      exact List.mem_cons_of_mem _ (ih found)

private theorem distinct_cons {key : String} {item : α} {rest : Fields α} :
    Distinct ((key, item) :: rest) ↔ key ∉ rest.keys ∧ rest.Distinct :=
  List.nodup_cons

private theorem distinct_concat {fields : Fields α} {key : String} {item : α} :
    Distinct (fields ++ [(key, item)]) ↔ fields.Distinct ∧ key ∉ fields.keys := by
  unfold Distinct keys
  rw [List.map_append, List.map_singleton, ← List.concat_eq_append, List.nodup_concat, and_comm]

/-- Where no key occurs twice, everything that stands in the fields is found. -/
theorem get?_of_mem {fields : Fields α} (distinct : fields.Distinct) {key : String} {item : α}
    (among : (key, item) ∈ fields) : fields.get? key = some item := by
  induction fields with
  | nil => cases among
  | cons field rest ih =>
    obtain ⟨k, held⟩ := field
    obtain ⟨absent, distinct⟩ := distinct_cons.mp distinct
    rcases List.mem_cons.mp among with same | later
    · cases same
      simp [get?]
    · have other : k ≠ key := by
        rintro rfl
        exact absent (List.mem_map_of_mem later)
      simp only [get?, other, ↓reduceIte]
      exact ih distinct later

/-- The same keys in the same order, with something else under each. -/
def mapItems (change : α → β) (fields : Fields α) : Fields β :=
  fields.map fun field => (field.1, change field.2)

theorem get?_mapItems (change : α → β) (fields : Fields α) (key : String) :
    (fields.mapItems change).get? key = (fields.get? key).map change := by
  induction fields with
  | nil => rfl
  | cons field rest ih =>
    simp only [mapItems, List.map_cons, get?] at ih ⊢
    rw [ih]
    split <;> rfl

theorem keys_mapItems (change : α → β) (fields : Fields α) :
    (fields.mapItems change).keys = fields.keys := by
  simp only [keys, mapItems, List.map_map]
  rfl

theorem items_mapItems (change : α → β) (fields : Fields α) :
    (fields.mapItems change).map Prod.snd = (fields.map Prod.snd).map change := by
  simp only [mapItems, List.map_map]
  rfl

theorem mapItems_mapItems {γ : Type} (first : α → β) (second : β → γ) (fields : Fields α) :
    (fields.mapItems first).mapItems second = fields.mapItems (second ∘ first) :=
  List.map_map

theorem mapItems_congr {change other : α → β} {fields : Fields α}
    (same : ∀ item ∈ fields.map Prod.snd, change item = other item) :
    fields.mapItems change = fields.mapItems other :=
  List.map_congr_left fun field among =>
    congrArg (field.1, ·) (same field.2 (List.mem_map_of_mem among))

private theorem get?_concat (fields : Fields α) (key other : String) (item : α) :
    get? (fields ++ [(key, item)]) other =
      (fields.get? other).or (if key = other then some item else none) := by
  induction fields with
  | nil => rfl
  | cons field rest ih =>
    simp only [List.cons_append, get?, ih]
    split <;> rfl

end Fields

namespace Json

open Fields (get? Distinct)

/-! ### One member -/

private theorem mem_insertMember {members : List (String × α)} {key : String} {item : α}
    {member : String × α} (among : member ∈ insertMember members key item) :
    member = (key, item) ∨ member ∈ members := by
  induction members with
  | nil => exact .inl (List.mem_singleton.mp among)
  | cons first rest ih =>
    obtain ⟨k, held⟩ := first
    unfold insertMember at among
    split at among
    · exact List.mem_cons.mp among
    · split at among
      · rcases List.mem_cons.mp among with new | later
        · exact .inl new
        · exact .inr (List.mem_cons_of_mem _ later)
      · rcases List.mem_cons.mp among with old | later
        · exact .inr (old ▸ List.mem_cons_self)
        · exact (ih later).imp_right (List.mem_cons_of_mem _)

/-- A member that is put in is found under its key, and the others are found as before. -/
theorem get?_insertMember (members : List (String × α)) (key other : String) (item : α) :
    get? (insertMember members key item) other = if key = other then some item else get? members other := by
  induction members with
  | nil => rfl
  | cons first rest ih =>
    obtain ⟨k, held⟩ := first
    unfold insertMember
    split
    · rfl
    · split
      · rename_i same
        subst same
        simp only [get?]
        split <;> rfl
      · rename_i different
        simp only [get?, ih]
        by_cases found : k = other
        · have absent : key ≠ other := fun same => different (same.trans found.symm)
          simp [found, absent]
        · simp [found]

private theorem insertMember_mapItems (change : α → β) (members : Fields α) (key : String) (item : α) :
    insertMember (members.mapItems change) key (change item) =
      Fields.mapItems change (insertMember members key item) := by
  induction members with
  | nil => rfl
  | cons first rest ih =>
    simp only [Fields.mapItems, List.map_cons, insertMember] at ih ⊢
    rw [ih]
    split
    · rfl
    · split <;> rfl

/-! ### Ascending keys -/

/-- Each member has a greater key than the one before it. -/
def Ascending (members : List (String × α)) : Prop :=
  members.Pairwise fun member later => member.1 < later.1

private theorem ascending_insertMember {members : List (String × α)} (ascending : Ascending members)
    (key : String) (item : α) : Ascending (insertMember members key item) := by
  induction members with
  | nil => exact List.pairwise_singleton _ _
  | cons first rest ih =>
    obtain ⟨k, held⟩ := first
    obtain ⟨above, restAscending⟩ := List.pairwise_cons.mp ascending
    unfold insertMember
    split
    · rename_i below
      refine List.pairwise_cons.mpr ⟨fun member among => ?_, ascending⟩
      rcases List.mem_cons.mp among with rfl | later
      · exact below
      · exact lt_trans below (above member later)
    · split
      · rename_i same
        subst same
        exact List.pairwise_cons.mpr ⟨above, restAscending⟩
      · rename_i notBelow different
        refine List.pairwise_cons.mpr ⟨fun member among => ?_, ih restAscending⟩
        rcases mem_insertMember among with rfl | later
        · exact lt_of_le_of_ne (not_lt.mp notBelow) (Ne.symm different)
        · exact above member later

theorem distinct_of_ascending {members : List (String × α)} (ascending : Ascending members) :
    Distinct members :=
  List.pairwise_map.mpr (ascending.imp fun less => ne_of_lt less)

/-- What stands first is found under no other key, and what stands later is not found under its key. -/
theorem get?_below {members : List (String × α)} {key : String}
    (above : ∀ member ∈ members, key < member.1) : get? members key = none := by
  refine Fields.get?_none_iff.mpr fun present => ?_
  obtain ⟨member, among, same⟩ := List.mem_map.mp present
  exact absurd (above member among) (same ▸ lt_irrefl _)

/-- Members with ascending keys are told apart by what they hold. -/
theorem ascending_ext {members others : List (String × α)} (ascending : Ascending members)
    (otherAscending : Ascending others) (same : ∀ key, get? members key = get? others key) :
    members = others := by
  induction members generalizing others with
  | nil =>
    cases others with
    | nil => rfl
    | cons first rest => simpa [get?] using same first.1
  | cons first rest ih =>
    obtain ⟨key, item⟩ := first
    obtain ⟨above, restAscending⟩ := List.pairwise_cons.mp ascending
    cases others with
    | nil => simpa [get?] using same key
    | cons other others =>
      obtain ⟨otherKey, otherItem⟩ := other
      obtain ⟨otherAbove, othersAscending⟩ := List.pairwise_cons.mp otherAscending
      -- The lesser of two different first keys would not be found in the other list.
      have keys : key = otherKey := by
        rcases lt_trichotomy key otherKey with less | equal | greater
        · have missing : get? others key = none :=
            get?_below fun member among => lt_trans less (otherAbove member among)
          simpa [get?, ne_of_gt less, missing] using same key
        · exact equal
        · have missing : get? rest otherKey = none :=
            get?_below fun member among => lt_trans greater (above member among)
          simpa [get?, ne_of_gt greater, missing] using same otherKey
      subst keys
      have items : item = otherItem := by simpa [get?] using same key
      subst items
      have rests : rest = others := by
        refine ih restAscending othersAscending fun probe => ?_
        by_cases head : key = probe
        · subst head
          rw [get?_below above, get?_below otherAbove]
        · simpa [get?, head] using same probe
      rw [rests]

/-! ### Sorting -/

private theorem sortMembers_concat (members : List (String × α)) (key : String) (item : α) :
    sortMembers (members ++ [(key, item)]) = insertMember (sortMembers members) key item := by
  simp [sortMembers]

theorem ascending_sortMembers (members : List (String × α)) : Ascending (sortMembers members) := by
  induction members using List.reverseRecOn with
  | nil => exact .nil
  | append_singleton members member ih =>
    rw [sortMembers_concat]
    exact ascending_insertMember ih _ _

theorem mem_sortMembers {members : List (String × α)} {member : String × α}
    (among : member ∈ sortMembers members) : member ∈ members := by
  induction members using List.reverseRecOn with
  | nil => cases among
  | append_singleton members last ih =>
    rw [sortMembers_concat] at among
    rcases mem_insertMember among with same | earlier
    · exact List.mem_append_right _ (List.mem_singleton.mpr same)
    · exact List.mem_append_left _ (ih earlier)

theorem sortMembers_mapItems (change : α → β) (members : Fields α) :
    sortMembers (members.mapItems change) = Fields.mapItems change (sortMembers members) := by
  induction members using List.reverseRecOn with
  | nil => rfl
  | append_singleton members member ih =>
    have last : Fields.mapItems change (members ++ [member]) =
        Fields.mapItems change members ++ [(member.1, change member.2)] := List.map_append
    rw [last, sortMembers_concat, ih, insertMember_mapItems, sortMembers_concat]

/-- Of several members under one key the last stays. -/
theorem get?_sortMembers_last (members : List (String × α)) (key : String) :
    get? (sortMembers members) key = get? members.reverse key := by
  induction members using List.reverseRecOn with
  | nil => rfl
  | append_singleton members member ih =>
    rw [sortMembers_concat, get?_insertMember, ih, List.reverse_append]
    rfl

/-- Sorting keeps what is held under each key, where no key occurs twice. -/
theorem get?_sortMembers {members : List (String × α)} (distinct : Distinct members) (key : String) :
    get? (sortMembers members) key = get? members key := by
  induction members using List.reverseRecOn with
  | nil => rfl
  | append_singleton members member ih =>
    obtain ⟨k, item⟩ := member
    obtain ⟨distinct, absent⟩ := Fields.distinct_concat.mp distinct
    rw [sortMembers_concat, get?_insertMember, ih distinct, Fields.get?_concat]
    by_cases found : k = key
    · subst found
      simp [Fields.get?_none_iff.mpr absent]
    · simp [found]

theorem get?_sorted_items (change : α → β) {members : Fields α} (distinct : Distinct members)
    (key : String) : get? (Fields.mapItems change (sortMembers members)) key =
      (get? members key).map change := by
  rw [Fields.get?_mapItems, get?_sortMembers distinct]

/-- Members whose keys ascend are sorted. -/
theorem sortMembers_of_ascending {members : List (String × α)} (ascending : Ascending members) :
    sortMembers members = members :=
  ascending_ext (ascending_sortMembers members) ascending
    (get?_sortMembers (distinct_of_ascending ascending))

/-- Members that hold the same are sorted alike, in whatever order they stood. -/
theorem sortMembers_congr {members others : List (String × α)} (distinct : Distinct members)
    (otherDistinct : Distinct others) (same : ∀ key, get? members key = get? others key) :
    sortMembers members = sortMembers others :=
  ascending_ext (ascending_sortMembers members) (ascending_sortMembers others) fun key => by
    rw [get?_sortMembers distinct, get?_sortMembers otherDistinct, same]

/-- Sorting loses no member, where no key occurs twice. -/
theorem mem_sortMembers_iff {members : List (String × α)} (distinct : Distinct members)
    {member : String × α} : member ∈ sortMembers members ↔ member ∈ members := by
  refine ⟨mem_sortMembers, fun among => Fields.mem_of_get? (?_ : _ = some member.2)⟩
  rw [get?_sortMembers distinct]
  exact Fields.get?_of_mem distinct among

end Json

end Multimethod
