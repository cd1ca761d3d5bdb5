import Mathlib.Data.List.Basic
import Multimethod.Proofs.Members

/-!
Fields and what has been done to them. What is found under a key is what was stored there last, unless the
key has been dropped since (`get?_after_iff`). The keys stand in the order in which they came in to stay
(`keys_byEntry`): storing under a key again keeps its place, dropping it first moves it to the end.
-/
namespace Multimethod.Fields

variable {α : Type}

/-- One thing that is done to fields. -/
inductive Change (α : Type) where
  /-- Stores under a key, whether it is there or not. -/
  | set (key : String) (item : α)
  /-- Drops a key, if it is there. -/
  | remove (key : String)

/-- The key that a change is about. -/
def Change.key : Change α → String
  | .set key _ => key
  | .remove key => key

/-- What stands under its key after a change. -/
def Change.item? : Change α → Option α
  | .set _ item => some item
  | .remove _ => none

/-- The fields after one change. -/
def change (fields : Fields α) : Change α → Fields α
  | .set key item => fields.insert key item
  | .remove key => fields.erase key

/-- What changes in turn make of no fields at all. -/
def after (changes : List (Change α)) : Fields α :=
  changes.foldl change []

/-! ### Histories -/

/-- Whatever was stored under a key, the key has been dropped since. -/
def Gone (changes : List (Change α)) (key : String) : Prop :=
  ∀ before item rest, changes = before ++ .set key item :: rest → .remove key ∈ rest

/-- The last thing that was done to a key is that an item was stored under it. -/
def LastSet (changes : List (Change α)) (key : String) (item : α) : Prop :=
  ∃ before rest, changes = before ++ .set key item :: rest ∧ ∀ change ∈ rest, change.key ≠ key

/-- A key came in at a position to stay: it is stored under there, whatever was stored under it before had
been dropped by then, and it has not been dropped since. -/
def EntersAt (changes : List (Change α)) (key : String) (position : Nat) : Prop :=
  ∃ before item rest, changes = before ++ .set key item :: rest ∧ before.length = position ∧
    Gone before key ∧ .remove key ∉ rest

variable {changes : List (Change α)} {last : Change α} {key : String}

/-- With one more change behind them, changes are taken apart at that one or at one of them. -/
theorem split_concat {before rest : List (Change α)} {here : Change α}
    (split : changes ++ [last] = before ++ here :: rest) :
    (before = changes ∧ here = last ∧ rest = []) ∨
      ∃ earlier, rest = earlier ++ [last] ∧ changes = before ++ here :: earlier := by
  rcases rest.eq_nil_or_concat' with rfl | ⟨earlier, final, rfl⟩
  · obtain ⟨same, one⟩ := List.append_inj' split rfl
    exact .inl ⟨same.symm, (List.singleton_inj.mp one).symm, rfl⟩
  · rw [← List.cons_append, ← List.append_assoc] at split
    obtain ⟨same, one⟩ := List.append_inj' split rfl
    exact .inr ⟨earlier, by rw [List.singleton_inj.mp one], same⟩

private theorem gone_nothing (key : String) : Gone ([] : List (Change α)) key :=
  fun before _ _ split => absurd split.symm (by simp)

private theorem gone_concat : Gone (changes ++ [last]) key ↔
    last = .remove key ∨ Gone changes key ∧ ∀ item, last ≠ .set key item := by
  constructor
  · intro gone
    by_cases dropped : last = .remove key
    · exact .inl dropped
    refine .inr ⟨fun before item rest split => ?_, fun item stored => ?_⟩
    · have later := gone before item (rest ++ [last]) (by simp [split])
      rcases List.mem_append.mp later with among | final
      · exact among
      · exact absurd (List.mem_singleton.mp final).symm dropped
    · exact absurd (gone changes item [] (by rw [stored])) List.not_mem_nil
  · intro held before item rest split
    rcases split_concat split with ⟨-, stored, -⟩ | ⟨earlier, rfl, shorter⟩
    · rcases held with dropped | ⟨-, other⟩
      · cases stored.trans dropped
      · exact absurd stored.symm (other item)
    · rcases held with rfl | ⟨gone, -⟩
      · exact List.mem_append_right _ List.mem_cons_self
      · exact List.mem_append_left _ (gone before item earlier shorter)

private theorem lastSet_concat {item : α} : LastSet (changes ++ [last]) key item ↔
    last = .set key item ∨ LastSet changes key item ∧ last.key ≠ key := by
  constructor
  · rintro ⟨before, rest, split, untouched⟩
    rcases split_concat split with ⟨-, stored, -⟩ | ⟨earlier, rfl, shorter⟩
    · exact .inl stored.symm
    · obtain ⟨untouched, other⟩ := List.forall_mem_append.mp untouched
      exact .inr ⟨⟨before, earlier, shorter, untouched⟩, other last List.mem_cons_self⟩
  · rintro (rfl | ⟨⟨before, rest, rfl, untouched⟩, other⟩)
    · exact ⟨changes, [], rfl, fun _ among => absurd among List.not_mem_nil⟩
    · refine ⟨before, rest ++ [last], by simp, List.forall_mem_append.mpr ⟨untouched, ?_⟩⟩
      exact List.forall_mem_singleton.mpr other

private theorem entersAt_concat {position : Nat} : EntersAt (changes ++ [last]) key position ↔
    (EntersAt changes key position ∧ last ≠ .remove key) ∨
      (position = changes.length ∧ Gone changes key ∧ ∃ item, last = .set key item) := by
  constructor
  · rintro ⟨before, item, rest, split, place, gone, stays⟩
    rcases split_concat split with ⟨rfl, stored, -⟩ | ⟨earlier, rfl, shorter⟩
    · exact .inr ⟨place.symm, gone, item, stored.symm⟩
    · rw [List.mem_append, List.mem_singleton, not_or] at stays
      exact .inl ⟨⟨before, item, earlier, shorter, place, gone, stays.1⟩, Ne.symm stays.2⟩
  · rintro (⟨⟨before, item, rest, rfl, place, gone, stays⟩, other⟩ | ⟨rfl, gone, item, rfl⟩)
    · refine ⟨before, item, rest ++ [last], by simp, place, gone, ?_⟩
      rw [List.mem_append, List.mem_singleton, not_or]
      exact ⟨stays, Ne.symm other⟩
    · exact ⟨changes, item, [], rfl, rfl, gone, List.not_mem_nil⟩

/-- A key has come in to stay exactly if it is not gone. -/
theorem entered_iff (changes : List (Change α)) (key : String) :
    (∃ position, EntersAt changes key position) ↔ ¬ Gone changes key := by
  induction changes using List.reverseRecOn with
  | nil =>
    refine iff_of_false ?_ (not_not_intro (gone_nothing key))
    rintro ⟨position, before, item, rest, split, -⟩
    exact absurd split.symm (by simp)
  | append_singleton changes last ih =>
    simp only [entersAt_concat, gone_concat, exists_or, exists_and_right, ih]
    -- A key that is in leaves only when it is dropped, and one that is gone comes in only when it is set.
    by_cases gone : Gone changes key <;> cases last <;> simp [gone]

theorem EntersAt.below {position : Nat} (enters : EntersAt changes key position) :
    position < changes.length := by
  obtain ⟨before, item, rest, rfl, rfl, -⟩ := enters
  simp

private theorem EntersAt.not_gone {position : Nat} (enters : EntersAt changes key position) :
    ¬ Gone changes key :=
  (entered_iff changes key).mp ⟨position, enters⟩

/-- One more change moves no key that is already in. -/
theorem EntersAt.earlier {position : Nat} (enters : EntersAt (changes ++ [last]) key position)
    (present : ¬ Gone changes key) : EntersAt changes key position := by
  rcases entersAt_concat.mp enters with ⟨earlier, -⟩ | ⟨-, gone, -⟩
  · exact earlier
  · exact absurd gone present

theorem EntersAt.unique {position other : Nat} (enters : EntersAt changes key position)
    (again : EntersAt changes key other) : position = other := by
  induction changes using List.reverseRecOn with
  | nil => exact absurd enters.below (Nat.not_lt_zero _)
  | append_singleton changes last ih =>
    by_cases gone : Gone changes key
    · rcases entersAt_concat.mp enters with ⟨earlier, -⟩ | ⟨here, -⟩
      · exact absurd gone earlier.not_gone
      rcases entersAt_concat.mp again with ⟨earlier, -⟩ | ⟨there, -⟩
      · exact absurd gone earlier.not_gone
      exact here.trans there.symm
    · exact ih (enters.earlier gone) (again.earlier gone)

/-! ### What changes leave -/

theorem after_concat (changes : List (Change α)) (last : Change α) :
    after (changes ++ [last]) = (after changes).change last :=
  List.foldl_concat _ _ _ _

private theorem get?_change (fields : Fields α) (last : Change α) (key : String) :
    (fields.change last).get? key = if last.key = key then last.item? else fields.get? key := by
  cases last with
  | set own item => exact get?_insert fields own key item
  | remove own => exact get?_erase fields own key

theorem Distinct.change {fields : Fields α} (distinct : fields.Distinct) (last : Change α) :
    (fields.change last).Distinct := by
  cases last with
  | set key item => exact distinct.insert key item
  | remove key => exact distinct.erase key

theorem distinct_after (changes : List (Change α)) : (after changes).Distinct := by
  induction changes using List.reverseRecOn with
  | nil => exact List.nodup_nil
  | append_singleton changes last ih => exact after_concat changes last ▸ ih.change last

/-- Under a key stands what was stored there last. -/
theorem get?_after_iff (changes : List (Change α)) (key : String) (item : α) :
    (after changes).get? key = some item ↔ LastSet changes key item := by
  induction changes using List.reverseRecOn with
  | nil =>
    refine iff_of_false (by simp [after, get?]) ?_
    rintro ⟨before, rest, split, -⟩
    exact absurd split.symm (by simp)
  | append_singleton changes last ih =>
    rw [after_concat, get?_change, lastSet_concat]
    by_cases same : last.key = key
    · subst same
      cases last <;> simp [Change.key, Change.item?]
    · have other : last ≠ .set key item := fun stored => same (stored ▸ rfl)
      simp [same, other, ih]

/-- Nothing stands under a key exactly if it is gone. -/
theorem get?_after_none_iff (changes : List (Change α)) (key : String) :
    (after changes).get? key = none ↔ Gone changes key := by
  induction changes using List.reverseRecOn with
  | nil => exact iff_of_true rfl (gone_nothing key)
  | append_singleton changes last ih =>
    rw [after_concat, get?_change, gone_concat]
    cases last with
    | set own item => by_cases same : own = key <;> simp [Change.key, Change.item?, same, ih]
    | remove own => by_cases same : own = key <;> simp [Change.key, Change.item?, same, ih]

private theorem mem_keys_after_iff (changes : List (Change α)) (key : String) :
    key ∈ (after changes).keys ↔ ¬ Gone changes key := by
  rw [← get?_after_none_iff, get?_none_iff, not_not]

/-- The keys that are there have come in to stay, each at one position. -/
theorem entry_of_key (changes : List (Change α)) (key : String) :
    key ∈ (after changes).keys ↔ ∃! position, EntersAt changes key position := by
  rw [mem_keys_after_iff, ← entered_iff]
  refine ⟨fun ⟨position, enters⟩ => ⟨position, enters, fun _ again => again.unique enters⟩, ?_⟩
  exact fun ⟨position, enters, _⟩ => ⟨position, enters⟩

/-- Of two keys the one that stands first came in first. -/
def ByEntry (changes : List (Change α)) (key later : String) : Prop :=
  ∀ position laterPosition, EntersAt changes key position → EntersAt changes later laterPosition →
    position < laterPosition

/-- The keys stand in the order in which they came in to stay. -/
theorem keys_byEntry (changes : List (Change α)) :
    (after changes).keys.Pairwise (ByEntry changes) := by
  induction changes using List.reverseRecOn with
  | nil => exact .nil
  | append_singleton changes last ih =>
    have present : ∀ key ∈ (after changes).keys, ¬ Gone changes key :=
      fun key => (mem_keys_after_iff changes key).mp
    -- Keys that were there keep the positions at which they came in.
    have kept : (after changes).keys.Pairwise (ByEntry (changes ++ [last])) := by
      refine ih.imp_of_mem fun among laterAmong ordered position laterPosition enters later => ?_
      exact ordered _ _ (enters.earlier (present _ among)) (later.earlier (present _ laterAmong))
    rw [after_concat]
    cases last with
    | remove key =>
      rw [change, keys_erase]
      exact kept.filter _
    | set key item =>
      rw [change, keys_insert]
      split
      · exact kept
      · rename_i absent
        refine List.pairwise_append.mpr ⟨kept, List.pairwise_singleton _ _, ?_⟩
        intro earlier among new isNew position newPosition enters newEnters
        rw [List.mem_singleton.mp isNew] at newEnters
        rcases entersAt_concat.mp newEnters with ⟨there, -⟩ | ⟨here, -⟩
        · exact absurd ((mem_keys_after_iff changes key).mpr there.not_gone) absent
        · exact here ▸ (enters.earlier (present _ among)).below

example : (after [.set "x" 0, .set "y" 1, .set "x" 2]).keys = ["x", "y"] ∧
    (after [.set "x" 0, .set "y" 1, .remove "x", .set "x" 2]).keys = ["y", "x"] :=
  ⟨rfl, rfl⟩

end Multimethod.Fields
