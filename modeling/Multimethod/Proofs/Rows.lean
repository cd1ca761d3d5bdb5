import Mathlib.Data.List.TakeWhile
import Multimethod.Proofs.Numerals

/-!
Rows of items between brackets, with blanks wherever the grammar has room for them. What a reader does with
a part is one outcome (`Takes`), whatever stands behind that part; a row comes to the outcomes of its items,
taken one after the other.
-/
namespace Multimethod.Json.Reader

variable {α β σ : Type}

/-! ### Blanks -/

def Blank (text : List Char) : Prop :=
  ∀ c ∈ text, isBlank c = true

instance (text : List Char) : Decidable (Blank text) :=
  List.decidableBAll _ text

theorem blank_nil : Blank [] := nofun

/-- A reader that passes over the blanks in front. -/
def Lenient (reader : Reader α) : Prop :=
  ∀ blanks, Blank blanks → ∀ text, reader.run (blanks ++ text) = reader.run text

theorem Lenient.bind {reader : Reader α} (lenient : Lenient reader) (next : α → Reader β) :
    Lenient (reader >>= next) := by
  intro blanks blank text
  rw [StateT.run_bind, StateT.run_bind, lenient blanks blank text]

theorem lenient_upcoming : Lenient upcoming := by
  intro blanks blank text
  have skipped : (blanks ++ text).dropWhile isBlank = text.dropWhile isBlank :=
    List.dropWhile_append_of_pos blank
  have modified : (modify (·.dropWhile isBlank) : Reader PUnit).run (blanks ++ text) =
      (modify (·.dropWhile isBlank) : Reader PUnit).run text :=
    congrArg (fun text => Except.ok (PUnit.unit, text)) skipped
  unfold upcoming
  rw [StateT.run_bind, StateT.run_bind, modified]

theorem lenient_mark (c : Char) : Lenient (mark c) :=
  lenient_upcoming.bind _

/-- Blanks end a number. -/
theorem Ends.behind {blanks rest : List Char} (blank : Blank blanks) (ends : Ends rest) :
    Ends (blanks ++ rest) := by
  cases blanks with
  | nil => exact ends
  | cons b blanks =>
    intro c head
    cases head
    have solid : ∀ other, isBlank other = false → b ≠ other := by
      rintro other solid rfl
      rw [blank b List.mem_cons_self] at solid
      cases solid
    refine ⟨Bool.eq_false_iff.mpr fun digit => ?_, solid '.' (by decide), solid 'e' (by decide),
      solid 'E' (by decide)⟩
    have white := blank b List.mem_cons_self
    simp only [isBlank, Bool.or_eq_true, beq_iff_eq] at white
    rcases white with ((rfl | rfl) | rfl) | rfl <;> cases digit

/-! ### Outcomes -/

/-- A reader takes what is written off the front of every text that does not go on with a number, or
refuses all those texts. -/
def Takes (reader : Reader α) (written : List Char) (outcome : Except Fault α) : Prop :=
  ∀ rest, Ends rest → reader.run (written ++ rest) = outcome.map fun result => (result, rest)

theorem Takes.wrap {reader : Reader α} {written : List Char} {outcome : Except Fault α}
    (takes : Takes reader written outcome) (wrap : α → β) :
    Takes (do return wrap (← reader)) written (outcome.map wrap) := by
  intro rest ends
  have read := takes rest ends
  cases outcome with
  | error fault => exact run_fault read
  | ok result => exact run_return read wrap

/-! ### Items between brackets -/

/-- A part of a row with the blanks around it. -/
structure Padded where
  before : List Char
  text : List Char
  after : List Char

def Padded.chars (part : Padded) : List Char :=
  part.before ++ part.text ++ part.after

structure Padded.Spaced (part : Padded) : Prop where
  before : Blank part.before
  after : Blank part.after

/-- A part without blanks around it. -/
def Padded.bare (text : List Char) : Padded :=
  ⟨[], text, []⟩

theorem Padded.bare_chars (text : List Char) : (Padded.bare text).chars = text :=
  List.append_nil text

theorem Padded.bare_spaced (text : List Char) : (Padded.bare text).Spaced :=
  ⟨blank_nil, blank_nil⟩

/-- Parts with commas between them and with brackets around them. `lead` is for brackets without any parts. -/
def bracketed (opening closing : Char) (lead : List Char) (parts : List Padded) : List Char :=
  opening :: (lead ++ joinComma (parts.map Padded.chars) ++ [closing])

/-- Parts as they stand before the closing bracket, each after a comma but the very first. -/
def row (first : Bool) : List Padded → List Char
  | [] => []
  | part :: rest => (if first then [] else [',']) ++ part.chars ++ row false rest

theorem row_cons_append (first : Bool) (part : Padded) (parts : List Padded) (rest : List Char) :
    row first (part :: parts) ++ rest = (if first then [] else [',']) ++
      (part.before ++ (part.text ++ (part.after ++ (row false parts ++ rest)))) := by
  simp only [row, Padded.chars, List.append_assoc]

private theorem joinComma_eq_row (parts : List Padded) :
    joinComma (parts.map Padded.chars) = row true parts := by
  have after : ∀ (part : Padded) (rest : List Padded),
      joinComma ((part :: rest).map Padded.chars) = part.chars ++ row false rest := by
    intro part rest
    induction rest generalizing part with
    | nil => simp [joinComma, row]
    | cons next rest ih =>
      rw [List.map_cons, List.map_cons, joinComma, ← List.map_cons, ih next, row]
      · simp
      · simp
  cases parts with
  | nil => rfl
  | cons part rest => exact (after part rest).trans (by simp [row])

theorem bracketed_append (opening closing : Char) (lead : List Char) (parts : List Padded)
    (rest : List Char) : bracketed opening closing lead parts ++ rest =
      opening :: (lead ++ (row true parts ++ closing :: rest)) := by
  rw [bracketed, joinComma_eq_row]
  simp

theorem bracketed_bare (opening closing : Char) (parts : List (List Char)) :
    bracketed opening closing [] (parts.map Padded.bare) = opening :: (joinComma parts ++ [closing]) := by
  have each : (parts.map Padded.bare).map Padded.chars = parts := by
    rw [List.map_map]
    exact (List.map_congr_left fun part _ => Padded.bare_chars part).trans (List.map_id parts)
  rw [bracketed, each, List.nil_append]

/-- No number goes on after an item: what follows its blanks is a comma or the closing bracket. -/
theorem ends_row {closing : Char} (bracket : closing = ']' ∨ closing = '\x7d') (parts : List Padded)
    (rest : List Char) : Ends (row false parts ++ closing :: rest) := by
  intro c head
  cases parts with
  | nil =>
    cases head
    rcases bracket with rfl | rfl <;> decide
  | cons part parts =>
    cases head
    decide

/-- What is written starts an item: with a character that is no blank, does not close the row, and may
stand in front of an item. -/
def Starts (closing : Char) (starts : Char → Bool) (written : List Char) : Prop :=
  ∃ c more, written = c :: more ∧ isBlank c = false ∧ c ≠ closing ∧ starts c = true

private theorem lenient_itemFollows (closing : Char) (starts : Char → Bool) (first : Bool) :
    Lenient (itemFollows closing starts first) :=
  lenient_upcoming.bind _

theorem run_itemFollows {closing : Char} {starts : Char → Bool} {written : List Char}
    (starting : Starts closing starts written) (bracket : closing = ']' ∨ closing = '\x7d')
    {lead before : List Char} (blankLead : Blank lead) (blankBefore : Blank before) (first : Bool)
    (rest : List Char) :
    (itemFollows closing starts first).run
        (lead ++ ((if first then [] else [',']) ++ (before ++ (written ++ rest)))) =
      .ok (true, written ++ rest) := by
  obtain ⟨c, more, rfl, solid, unclosed, fits⟩ := starting
  have next : upcoming.run (before ++ (c :: more ++ rest)) = .ok (c, c :: more ++ rest) :=
    (lenient_upcoming before blankBefore _).trans (run_upcoming solid _)
  rw [lenient_itemFollows closing starts first lead blankLead]
  unfold itemFollows
  cases first with
  | true =>
    simp only [↓reduceIte, List.nil_append]
    rw [run_then next, if_neg unclosed, pure_bind, if_pos fits]
    rfl
  | false =>
    have comma : ',' ≠ closing := by rcases bracket with rfl | rfl <;> decide
    simp only [Bool.false_eq_true, ↓reduceIte, List.cons_append, List.nil_append]
    rw [run_then (run_upcoming (by decide) _), if_neg comma, run_then (run_one _ _)]
    refine (run_then next).trans ?_
    rw [if_pos fits]
    rfl

theorem run_itemFollows_not {closing : Char} (bracket : closing = ']' ∨ closing = '\x7d')
    (starts : Char → Bool) (first : Bool) {lead : List Char} (blank : Blank lead) (rest : List Char) :
    (itemFollows closing starts first).run (lead ++ closing :: rest) = .ok (false, closing :: rest) := by
  have solid : isBlank closing = false := by rcases bracket with rfl | rfl <;> decide
  rw [lenient_itemFollows closing starts first lead blank]
  unfold itemFollows
  rw [run_then (run_upcoming solid rest), if_pos rfl]
  rfl

section Items

variable {opening closing : Char} {starts : Char → Bool} {item : σ → Reader σ}
  {layout : α → Padded} {step : σ → α → Except Fault σ} {entries : List α}

/-- What a row comes to, item by item: each item is taken with what those before it have come to, and the
first one refused makes the text a refused one. -/
theorem run_itemsFrom (bracket : closing = ']' ∨ closing = '\x7d')
    (spaced : ∀ entry ∈ entries, (layout entry).Spaced)
    (starting : ∀ entry ∈ entries, Starts closing starts (layout entry).text)
    (takes : ∀ entry ∈ entries, ∀ soFar, Takes (item soFar) (layout entry).text (step soFar entry))
    {bound : Nat} (enough : entries.length < bound) (first : Bool) (soFar : σ) {lead : List Char}
    (blank : Blank lead) (rest : List Char) :
    (itemsFrom closing starts item bound first soFar).run
        (lead ++ (row first (entries.map layout) ++ closing :: rest)) =
      (entries.foldlM step soFar).map fun result => (result, rest) := by
  induction entries generalizing bound first soFar lead with
  | nil =>
    obtain ⟨bound, rfl⟩ := Nat.exists_eq_add_one.mpr enough
    rw [List.map_nil, row, List.nil_append, itemsFrom,
      run_then (run_itemFollows_not bracket starts first blank rest), if_neg Bool.false_ne_true,
      run_then (run_one closing rest)]
    rfl
  | cons entry entries ih =>
    obtain ⟨bound, rfl⟩ := Nat.exists_eq_add_one.mpr (Nat.zero_lt_of_lt enough)
    obtain ⟨here, others⟩ := List.forall_mem_cons.mp spaced
    obtain ⟨start, later⟩ := List.forall_mem_cons.mp starting
    obtain ⟨takesHere, takesOthers⟩ := List.forall_mem_cons.mp takes
    have goesOn := run_itemFollows start bracket blank here.before first
      ((layout entry).after ++ (row false (entries.map layout) ++ closing :: rest))
    have read := takesHere soFar _ ((ends_row bracket (entries.map layout) rest).behind here.after)
    rw [List.map_cons, row_cons_append, itemsFrom, run_then goesOn, if_pos rfl, List.foldlM_cons]
    cases outcome : step soFar entry with
    | error fault =>
      rw [outcome] at read
      exact run_fault read
    | ok result =>
      rw [outcome] at read
      rw [run_then read]
      exact ih others later takesOthers (Nat.lt_of_succ_lt_succ enough) false result here.after

private theorem length_le_row (starting : ∀ entry ∈ entries, Starts closing starts (layout entry).text)
    (first : Bool) : entries.length ≤ (row first (entries.map layout)).length := by
  induction entries generalizing first with
  | nil => exact Nat.zero_le _
  | cons entry entries ih =>
    obtain ⟨⟨c, more, written, -⟩, later⟩ := List.forall_mem_cons.mp starting
    have shorter := ih later false
    rw [List.map_cons, row, Padded.chars, written]
    simp only [List.length_append, List.length_cons]
    omega

theorem takes_items (bracket : closing = ']' ∨ closing = '\x7d') {lead : List Char} (blank : Blank lead)
    (spaced : ∀ entry ∈ entries, (layout entry).Spaced)
    (starting : ∀ entry ∈ entries, Starts closing starts (layout entry).text)
    (takes : ∀ entry ∈ entries, ∀ soFar, Takes (item soFar) (layout entry).text (step soFar entry))
    (start : σ) :
    Takes (items opening closing starts item start) (bracketed opening closing lead (entries.map layout))
      (entries.foldlM step start) := by
  intro rest _
  have enough : entries.length <
      (lead ++ (row true (entries.map layout) ++ closing :: rest)).length + 1 := by
    have each := length_le_row starting true
    simp only [List.length_append]
    omega
  unfold items
  rw [bracketed_append, run_then (run_one opening _), run_then (run_get _)]
  exact run_itemsFrom bracket spaced starting takes enough true start blank rest

end Items

end Multimethod.Json.Reader
