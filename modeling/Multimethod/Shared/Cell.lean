/-!
A cell that hands out snapshots of its content. Content lives in slots. A snapshot holds the slot
that was current when it was taken. An update writes into the current slot if no snapshot holds it,
and into a fresh slot otherwise, so a held snapshot never sees a change: `read?_update`.
-/
namespace Multimethod.Shared

/-- The content of a cell, now and for each snapshot that is still held. -/
structure Cell (α : Type) where
  slots : List α
  /-- The slot of the content as of now. -/
  current : Nat
  current_lt : current < slots.length
  /-- The slots that snapshots hold, one entry for each snapshot. -/
  held : List Nat
  held_lt : ∀ slot ∈ held, slot < slots.length

/-- A snapshot: the slot that it holds. -/
structure Snapshot where
  slot : Nat
deriving DecidableEq

namespace Cell

variable {α β : Type}

/-- A cell with the given content, of which no snapshot has been taken. -/
def new (content : α) : Cell α :=
  ⟨[content], 0, by simp, [], by simp⟩

instance [Inhabited α] : Inhabited (Cell α) := ⟨new default⟩

/-- The content as of now. -/
def content (cell : Cell α) : α :=
  cell.slots.get ⟨cell.current, cell.current_lt⟩

/-- Takes a snapshot. -/
def snapshot (cell : Cell α) : Snapshot × Cell α :=
  (⟨cell.current⟩,
   { cell with
     held := cell.current :: cell.held
     held_lt := by simpa using ⟨cell.current_lt, cell.held_lt⟩ })

/-- The content that a snapshot holds. -/
def read? (cell : Cell α) (snapshot : Snapshot) : Option α :=
  cell.slots[snapshot.slot]?

/-- Gives a snapshot back. -/
def release (cell : Cell α) (snapshot : Snapshot) : Cell α :=
  { cell with
    held := cell.held.erase snapshot.slot
    held_lt := fun slot held => cell.held_lt slot (List.mem_of_mem_erase held) }

/-- Whether a snapshot holds the current slot. -/
def isHeld (cell : Cell α) : Bool :=
  cell.held.contains cell.current

/-- Puts other content in place of the current one, for all to see who hold the current slot. -/
def overwrite (cell : Cell α) (next : α) : Cell α :=
  { cell with
    slots := cell.slots.set cell.current next
    current_lt := by simpa using cell.current_lt
    held_lt := by simpa using cell.held_lt }

/-- Puts other content into a slot of its own, which becomes the current one. -/
def advance (cell : Cell α) (next : α) : Cell α :=
  { cell with
    slots := cell.slots ++ [next]
    current := cell.slots.length
    current_lt := by simp
    held_lt := fun slot held => by
      have old := cell.held_lt slot held
      simp only [List.length_append, List.length_singleton]
      omega }

/-- Changes the content, in place if no snapshot holds it. -/
def update (cell : Cell α) (change : α → α × β) : β × Cell α :=
  let (next, result) := change cell.content
  (result, if cell.isHeld then cell.advance next else cell.overwrite next)

/-! ### What is read afterwards -/

/-- A new snapshot holds the content as of now. -/
theorem read?_snapshot (cell : Cell α) :
    cell.snapshot.2.read? cell.snapshot.1 = some cell.content := by
  simp [snapshot, read?, content, cell.current_lt]

/-- After an update the content is what the change made of the content before. -/
theorem content_update (cell : Cell α) (change : α → α × β) :
    (cell.update change).2.content = (change cell.content).1 := by
  simp only [update]
  split <;> simp [content, advance, overwrite]

/-- An update neither takes a snapshot nor gives one back. -/
theorem held_update (cell : Cell α) (change : α → α × β) :
    (cell.update change).2.held = cell.held := by
  simp only [update]
  split <;> rfl

/-- A snapshot that is held reads the same after an update. -/
theorem read?_update (cell : Cell α) (change : α → α × β) (snapshot : Snapshot)
    (held : snapshot.slot ∈ cell.held) :
    (cell.update change).2.read? snapshot = cell.read? snapshot := by
  have old := cell.held_lt _ held
  simp only [update, read?]
  split
  · simp [advance, List.getElem?_append_left old]
  · rename_i free
    have other : cell.current ≠ snapshot.slot := by
      intro same
      exact free (by simpa [isHeld, same] using held)
    simp [overwrite, List.getElem?_set_ne other]

end Cell

end Multimethod.Shared
