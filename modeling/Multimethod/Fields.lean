/-!
Keyed fields in the order in which their keys were first inserted. Inserting under a present
key keeps its place; erasing a key moves no other.
-/
namespace Multimethod

/-- Pairs of a key and what is stored under it, in insertion order. -/
abbrev Fields (α : Type) := List (String × α)

namespace Fields

variable {α : Type}

/-- The keys in order. -/
def keys (fields : Fields α) : List String :=
  fields.map Prod.fst

/-- What is stored under a key. -/
def get? (fields : Fields α) (key : String) : Option α :=
  match fields with
  | [] => none
  | (k, stored) :: rest => if k = key then some stored else get? rest key

/-- Stores under a key: in place where the key is present, at the end where it is not. -/
def insert (fields : Fields α) (key : String) (item : α) : Fields α :=
  match fields with
  | [] => [(key, item)]
  | (k, stored) :: rest =>
    if k = key then (key, item) :: rest else (k, stored) :: insert rest key item

/-- Drops a key; the others keep their order. -/
def erase (fields : Fields α) (key : String) : Fields α :=
  fields.filter fun entry => entry.1 ≠ key

/-- The fields that result from inserting pairs in turn. -/
def ofList (entries : List (String × α)) : Fields α :=
  entries.foldl (fun fields entry => fields.insert entry.1 entry.2) []

/-- No key occurs twice. Every operation keeps this. -/
def Distinct (fields : Fields α) : Prop :=
  fields.keys.Nodup

/-! ### What inserting and erasing do -/

/-- Inserting changes what is stored under its own key only. -/
theorem get?_insert (fields : Fields α) (key other : String) (item : α) :
    (fields.insert key item).get? other = if key = other then some item else fields.get? other := by
  induction fields with
  | nil => simp [insert, get?]
  | cons entry rest ih =>
    obtain ⟨k, stored⟩ := entry
    by_cases same : k = key
    · subst same
      by_cases found : k = other <;> simp [insert, get?, found]
    · by_cases found : k = other
      · subst found
        simp [insert, get?, same, Ne.symm same]
      · simp [insert, get?, same, found, ih]

/-- A present key keeps its place, and a new one goes to the end. -/
theorem keys_insert (fields : Fields α) (key : String) (item : α) :
    (fields.insert key item).keys =
      if key ∈ fields.keys then fields.keys else fields.keys ++ [key] := by
  induction fields with
  | nil => simp [insert, keys]
  | cons entry rest ih =>
    obtain ⟨k, stored⟩ := entry
    by_cases same : k = key
    · simp [insert, keys, same]
    · have other : key ≠ k := fun h => same h.symm
      simp only [keys] at ih
      by_cases present : key ∈ rest.map Prod.fst <;> simp_all [insert, keys]

/-- The keys that stay are in the order in which they were. -/
theorem keys_erase (fields : Fields α) (key : String) :
    (fields.erase key).keys = fields.keys.filter fun k => k ≠ key := by
  simp only [erase, keys, List.filter_map]
  rfl

/-- Erasing changes what is stored under its own key only. -/
theorem get?_erase (fields : Fields α) (key other : String) :
    (fields.erase key).get? other = if key = other then none else fields.get? other := by
  induction fields with
  | nil => simp [erase, get?]
  | cons entry rest ih =>
    obtain ⟨k, stored⟩ := entry
    simp only [erase] at ih
    by_cases same : k = key
    · subst same
      by_cases found : k = other <;> simp_all [erase, get?]
    · by_cases found : k = other
      · subst found
        simp [erase, get?, same, Ne.symm same]
      · simpa [erase, get?, same, found] using ih

/-- Inserting keeps the keys distinct. -/
theorem Distinct.insert {fields : Fields α} (distinct : Distinct fields) (key : String) (item : α) :
    Distinct (fields.insert key item) := by
  unfold Distinct at *
  rw [keys_insert]
  split
  · exact distinct
  · rename_i absent
    exact List.nodup_append.2 ⟨distinct, by simp, by
      intro a held b new
      rw [List.mem_singleton.1 new]
      exact fun same => absent (same ▸ held)⟩

/-- Erasing keeps the keys distinct. -/
theorem Distinct.erase {fields : Fields α} (distinct : Distinct fields) (key : String) :
    Distinct (fields.erase key) := by
  unfold Distinct at *
  rw [keys_erase]
  exact distinct.filter _

end Fields

end Multimethod
