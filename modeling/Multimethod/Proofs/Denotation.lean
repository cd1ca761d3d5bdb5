import Multimethod.Proofs.Members
import Multimethod.Proofs.Skipping

/-!
Texts and the documents that they hold. A document as it is written (`Denotes`) has the members of each
object where they stand, and all of them, also where a key comes up again; what is read of it has them in
order, the last one under each key (`settled`). Every text is read as the document that it denotes, provided
that the reader goes as deep as the text is nested; the text of one that is nested deeper is malformed
(`takes_denoted`).
-/
namespace Multimethod.Json

/-! ### Depth -/

mutual

/-- How deep arrays and objects are nested in a document. Empty ones count. -/
def depth : Json → Nat
  | .array items => depthOfItems items + 1
  | .object members => depthOfMembers members + 1
  | _ => 0

/-- The greatest depth of several documents. -/
def depthOfItems : List Json → Nat
  | [] => 0
  | item :: rest => max item.depth (depthOfItems rest)

/-- The greatest depth of what several members hold. -/
def depthOfMembers : List (String × Json) → Nat
  | [] => 0
  | (_, item) :: rest => max item.depth (depthOfMembers rest)

end

theorem depthOfItems_le_iff {items : List Json} {budget : Nat} :
    depthOfItems items ≤ budget ↔ ∀ item ∈ items, item.depth ≤ budget := by
  induction items with
  | nil => simp [depthOfItems]
  | cons item rest ih => rw [depthOfItems, Nat.max_le, ih, List.forall_mem_cons]

theorem depthOfMembers_le_iff {members : List (String × Json)} {budget : Nat} :
    depthOfMembers members ≤ budget ↔ ∀ member ∈ members, member.2.depth ≤ budget := by
  induction members with
  | nil => simp [depthOfMembers]
  | cons member rest ih => rw [depthOfMembers, Nat.max_le, ih, List.forall_mem_cons]

/-! ### What is read of a document -/

mutual

/-- A document with the members of each object in ascending order, of several under one key the last. -/
def settled : Json → Json
  | .null => .null
  | .bool b => .bool b
  | .number n => .number n
  | .string text => .string text
  | .array items => .array (settledItems items)
  | .object members => .ofMembers (settledMembers members)

/-- `settled` for each item. -/
def settledItems : List Json → List Json
  | [] => []
  | item :: rest => item.settled :: settledItems rest

/-- `settled` for what each member holds. -/
def settledMembers : List (String × Json) → List (String × Json)
  | [] => []
  | (key, item) :: rest => (key, item.settled) :: settledMembers rest

end

private theorem settledItems_eq_map (items : List Json) : settledItems items = items.map settled := by
  induction items with
  | nil => rfl
  | cons item rest ih => simp [settledItems, ih]

private theorem settledMembers_eq_mapItems (members : Fields Json) :
    settledMembers members = members.mapItems settled := by
  induction members with
  | nil => rfl
  | cons member rest ih =>
    obtain ⟨key, item⟩ := member
    rw [settledMembers, ih]
    rfl

theorem settled_array (items : List Json) : (array items).settled = .array (items.map settled) := by
  rw [settled, settledItems_eq_map]

theorem settled_object (members : Fields Json) :
    (object members).settled = .object (Fields.mapItems settled (sortMembers members)) := by
  rw [settled, ofMembers, settledMembers_eq_mapItems, sortMembers_mapItems]

/-- Items that are collected one after the other. -/
theorem collected_items (items : List Json) :
    (items.foldl (fun soFar item => item.settled :: soFar) []).reverse = items.map settled := by
  rw [List.foldl_flip_cons_eq_append, List.append_nil, List.reverse_reverse]

/-- Members that are collected one after the other. -/
theorem collected_members (members : Fields Json) :
    members.foldl (fun soFar member => insertMember soFar member.1 member.2.settled) [] =
      Fields.mapItems settled (sortMembers members) := by
  rw [← sortMembers_mapItems, sortMembers, Fields.mapItems, List.foldl_map]

namespace Reader

variable {α σ : Type}

/-! ### What texts denote -/

/-- The texts of a document, without blanks around them. The document has everything that is written, in the
order in which it stands. -/
inductive Denotes : List Char → Json → Prop where
  | null : Denotes ['n', 'u', 'l', 'l'] .null
  | bool (b : Bool) : Denotes (boolChars b) (.bool b)
  | number {numeral : Numeral} {n : Number} (stands : numeral.parts.number? = some n) :
      Denotes numeral.chars (.number n)
  | string {written : List Char} {text : String} (spells : Spells written text.toList) :
      Denotes (quote written) (.string text)
  | array {lead : List Char} {entries : List (Padded × Json)} (blank : Blank lead)
      (spaced : ∀ entry ∈ entries, entry.1.Spaced) (each : ∀ entry ∈ entries, Denotes entry.1.text entry.2) :
      Denotes (bracketed '[' ']' lead (entries.map Prod.fst)) (.array (entries.map Prod.snd))
  | object {lead : List Char} {entries : List (Member × String × Json)} (blank : Blank lead)
      (spaced : ∀ entry ∈ entries, entry.1.Spaced)
      (keys : ∀ entry ∈ entries, Spells entry.1.key entry.2.1.toList)
      (each : ∀ entry ∈ entries, Denotes entry.1.value entry.2.2) :
      Denotes (bracketed '\x7b' '\x7d' lead (entries.map fun entry => entry.1.layout))
        (.object (entries.map Prod.snd))

private theorem grammatical_of_denotes {text : List Char} {document : Json}
    (denotes : Denotes text document) :
    Grammatical text := by
  induction denotes with
  | null => exact .null
  | bool b => exact .bool b
  | number stands => exact .number _
  | string spells => exact .string spells.quotable
  | array blank spaced _ ih =>
    exact .array blank (List.forall_mem_map.mpr spaced) (List.forall_mem_map.mpr ih)
  | @object lead entries blank spaced keys _ ih =>
    have layouts : (entries.map fun entry => entry.1.layout) = (entries.map Prod.fst).map Member.layout := by
      rw [List.map_map]
      rfl
    rw [layouts]
    exact .object blank (List.forall_mem_map.mpr spaced)
      (List.forall_mem_map.mpr fun entry among => (keys entry among).quotable) (List.forall_mem_map.mpr ih)

/-! ### Where a document fits -/

/-- What is read where it fits; where it does not, the text counts as malformed. -/
def whereFits (fits : Prop) [Decidable fits] (result : α) : Except Fault α :=
  if fits then .ok result else .error .malformed

private theorem whereFits_congr {fits other : Prop} [Decidable fits] [Decidable other] (same : fits ↔ other)
    (result : α) : whereFits fits result = whereFits other result :=
  if_congr same rfl rfl

private theorem whereFits_map {β : Type} {fits : Prop} [Decidable fits] (result : α) (wrap : α → β) :
    (whereFits fits result).map wrap = whereFits fits (wrap result) := by
  unfold whereFits
  split <;> rfl

private theorem Takes.wrap_fits {β : Type} {reader : Reader α} {written : List Char} {fits : Prop}
    [Decidable fits] {result : α} (takes : Takes reader written (whereFits fits result)) (wrap : α → β) :
    Takes (do return wrap (← reader)) written (whereFits fits (wrap result)) := by
  rw [← whereFits_map]
  exact takes.wrap wrap

/-- Where all items of a row fit they are put together in the order in which they stand. -/
theorem foldlM_whereFits {fits : α → Prop} [DecidablePred fits] {put : σ → α → σ} (entries : List α)
    (start : σ) :
    entries.foldlM (fun soFar entry => whereFits (fits entry) (put soFar entry)) start =
      whereFits (∀ entry ∈ entries, fits entry) (entries.foldl put start) := by
  induction entries generalizing start with
  | nil => exact (if_pos nofun).symm
  | cons entry entries ih =>
    rw [List.foldlM_cons]
    by_cases small : fits entry
    · have first : whereFits (fits entry) (put start entry) = .ok (put start entry) := if_pos small
      rw [first]
      exact (ih (put start entry)).trans (whereFits_congr (by simp [small]) _)
    · have first : whereFits (fits entry) (put start entry) = .error .malformed := if_neg small
      rw [first]
      exact (if_neg fun all => small (all entry List.mem_cons_self)).symm

/-! ### Reading -/

/-- A reader that goes down to some depth reads what a text denotes, if that is nested no deeper. -/
def ReadsAt (budget : Nat) (text : List Char) (document : Json) : Prop :=
  Takes (value budget) text (whereFits (document.depth ≤ budget) document.settled)

private theorem lenient_value (budget : Nat) : Lenient (value budget) := by
  cases budget <;> exact lenient_upcoming.bind _

/-- At any depth, what is neither an array nor an object is read as what it is. -/
theorem reads_scalar {text : List Char} {document : Json} {c : Char} {more : List Char}
    (written : text = c :: more) (front : isBlank c = false ∧ c ≠ '[' ∧ c ≠ '\x7b')
    (flat : document.depth = 0) (same : document.settled = document)
    (read : ∀ rest, Ends rest → (scalar c).run (text ++ rest) = .ok (document, rest)) (budget : Nat) :
    ReadsAt budget text document := by
  obtain ⟨solid, noArray, noObject⟩ := front
  intro rest ends
  rw [whereFits, if_pos (flat ▸ Nat.zero_le budget), same]
  refine Eq.trans ?_ (read rest ends)
  rw [written, List.cons_append]
  cases budget with
  | zero => rw [value, run_then (run_upcoming solid _), if_neg (by tauto)]
  | succ budget =>
    rw [value, run_then (run_upcoming solid _)]
    dsimp only
    rw [if_neg noArray, if_neg noObject]

private theorem reads_word {text : List Char} {document : Json} {c : Char} {more : List Char}
    (written : text = c :: more) (front : isBlank c = false ∧ c ≠ '[' ∧ c ≠ '\x7b')
    (flat : document.depth = 0) (same : document.settled = document)
    (spelled : scalar c = (do word text; return document)) (budget : Nat) :
    ReadsAt budget text document := by
  refine reads_scalar written front flat same (fun rest _ => ?_) budget
  rw [spelled]
  exact run_return (run_word text rest) fun _ => document

/-- Where a number starts, a number is read. -/
theorem scalar_number {c : Char} (front : c = '-' ∨ c.isDigit = true) :
    scalar c = (return .number (← number)) := by
  have number : (c = '-' || c.isDigit) = true := by simpa using front
  unfold scalar
  rw [if_neg (front_ne front (by decide)), if_neg (front_ne front (by decide)),
    if_neg (front_ne front (by decide)), if_neg (front_ne front (by decide)), if_pos number]

private theorem reads_number {numeral : Numeral} {n : Number} (stands : numeral.parts.number? = some n)
    (budget : Nat) : ReadsAt budget numeral.chars (.number n) := by
  obtain ⟨c, more, written, front⟩ := numeral.front
  have flat : c ≠ '[' ∧ c ≠ '\x7b' := ⟨front_ne front (by decide), front_ne front (by decide)⟩
  refine reads_scalar written ⟨front_solid front, flat⟩ rfl (by rw [settled]) (fun rest ends => ?_) budget
  rw [scalar_number front]
  exact run_return (run_number numeral stands ends) Json.number

/-- Nothing is read of brackets where nothing may be nested. -/
theorem reads_bracket {c : Char} (bracket : c = '[' ∨ c = '\x7b') (more : List Char) {document : Json}
    (nested : 0 < document.depth) : ReadsAt 0 (c :: more) document := by
  intro rest _
  have solid : isBlank c = false := by rcases bracket with rfl | rfl <;> decide
  rw [whereFits, if_neg (Nat.not_le.mpr nested), List.cons_append, value,
    run_then (run_upcoming solid _), if_pos bracket]
  rfl

private theorem reads_array {lead : List Char} {entries : List (Padded × Json)} (blank : Blank lead)
    (spaced : ∀ entry ∈ entries, entry.1.Spaced) (each : ∀ entry ∈ entries, Denotes entry.1.text entry.2)
    {budget : Nat} (read : ∀ entry ∈ entries, ReadsAt budget entry.1.text entry.2) :
    ReadsAt (budget + 1) (bracketed '[' ']' lead (entries.map Prod.fst)) (.array (entries.map Prod.snd)) := by
  have shallow : (∀ entry ∈ entries, entry.2.depth ≤ budget) ↔
      (Json.array (entries.map Prod.snd)).depth ≤ budget + 1 := by
    rw [depth, Nat.succ_le_succ_iff, depthOfItems_le_iff, List.forall_mem_map]
  have row : Takes (arrayItems (fun soFar => return (← value budget) :: soFar) []) _ _ :=
    takes_items (.inl rfl) blank spaced
      (fun entry among => starts_of_grammatical (grammatical_of_denotes (each entry among)))
      (fun entry among soFar => (read entry among).wrap_fits (· :: soFar)) []
  rw [foldlM_whereFits] at row
  have whole := (row.wrap_fits List.reverse).wrap_fits Json.array
  have collected := collected_items (entries.map Prod.snd)
  rw [List.foldl_map] at collected
  rw [collected, whereFits_congr shallow, ← settled_array] at whole
  intro rest ends
  rw [← whole rest ends, value]
  refine (run_then (run_upcoming (c := '[') (by decide) _)).trans ?_
  dsimp only
  rw [if_pos rfl, array, map_eq_pure_bind]
  rfl

private theorem takes_member {member : Member} {key : String} {item : Json} (spaced : member.Spaced)
    (spells : Spells member.key key.toList) {budget : Nat} (read : ReadsAt budget member.value item)
    (soFar : List (String × Json)) :
    Takes (do
        let key ← string
        mark ':'
        return insertMember soFar key (← value budget)) member.layout.text
      (whereFits (item.depth ≤ budget) (insertMember soFar key item.settled)) := by
  intro rest ends
  rw [member.text_append, run_then (run_string spells _), run_then (run_colon spaced rest),
    ((lenient_value budget).bind _) _ spaced.beyond]
  exact read.wrap_fits (insertMember soFar key ·) rest ends

private theorem reads_object {lead : List Char} {entries : List (Member × String × Json)} (blank : Blank lead)
    (spaced : ∀ entry ∈ entries, entry.1.Spaced)
    (keys : ∀ entry ∈ entries, Spells entry.1.key entry.2.1.toList) {budget : Nat}
    (read : ∀ entry ∈ entries, ReadsAt budget entry.1.value entry.2.2) :
    ReadsAt (budget + 1) (bracketed '\x7b' '\x7d' lead (entries.map fun entry => entry.1.layout))
      (.object (entries.map Prod.snd)) := by
  have shallow : (∀ entry ∈ entries, entry.2.2.depth ≤ budget) ↔
      (Json.object (entries.map Prod.snd)).depth ≤ budget + 1 := by
    rw [depth, Nat.succ_le_succ_iff, depthOfMembers_le_iff, List.forall_mem_map]
  have row : Takes (objectMembers (fun key soFar => do
        mark ':'
        return insertMember soFar key (← value budget)) []) _ _ :=
    takes_items (.inr rfl) blank (fun entry among => (spaced entry among).layout)
      (fun entry _ => starts_member entry.1)
      (fun entry among soFar =>
        takes_member (spaced entry among) (keys entry among) (read entry among) soFar) []
  rw [foldlM_whereFits] at row
  have whole := row.wrap_fits Json.object
  have collected := collected_members (entries.map Prod.snd)
  rw [List.foldl_map] at collected
  rw [collected, whereFits_congr shallow, ← settled_object] at whole
  intro rest ends
  rw [← whole rest ends, value]
  refine (run_then (run_upcoming (c := '\x7b') (by decide) _)).trans ?_
  dsimp only
  rw [if_neg (by decide), if_pos rfl]
  rfl

/-- A text is read as the document that it denotes, if the reader goes as deep as that is nested. -/
theorem takes_denoted {text : List Char} {document : Json} (denotes : Denotes text document)
    (budget : Nat) : ReadsAt budget text document := by
  induction denotes generalizing budget with
  | null => exact reads_word rfl (by decide) rfl rfl rfl budget
  | bool b => cases b <;> exact reads_word rfl (by decide) rfl rfl rfl budget
  | number stands => exact reads_number stands budget
  | @string written text spells =>
    refine reads_scalar rfl (by decide) rfl rfl (fun rest _ => ?_) budget
    exact run_return (run_string spells rest) Json.string
  | array blank spaced each ih =>
    cases budget with
    | zero => exact reads_bracket (.inl rfl) _ (Nat.succ_pos _)
    | succ budget => exact reads_array blank spaced each fun entry among => ih entry among budget
  | object blank spaced keys _ ih =>
    cases budget with
    | zero => exact reads_bracket (.inr rfl) _ (Nat.succ_pos _)
    | succ budget => exact reads_object blank spaced keys fun entry among => ih entry among budget

/-! ### Whole texts -/

theorem whole_of_run {reader : Reader α} {text : String} {rest : List Char} {result : α}
    (read : reader.run text.toList = .ok (result, rest)) :
    reader.whole text = if rest.all isBlank then .ok result else .error .malformed := by
  unfold whole
  rw [read]
  rfl

theorem whole_of_fault {reader : Reader α} {text : String} {fault : Fault}
    (refused : reader.run text.toList = .error fault) : reader.whole text = .error fault := by
  unfold whole
  rw [refused]
  rfl

end Reader

/-- A text holds a document if it denotes that, with blanks before it and behind it. -/
def Holds (text : String) (document : Json) : Prop :=
  ∃ before written after, Reader.Blank before ∧ Reader.Blank after ∧
    text.toList = before ++ written ++ after ∧ Reader.Denotes written document

/-- What a text holds is read of it, unless it is nested too deep. -/
theorem parse_of_holds {text : String} {document : Json} (holds : Holds text document) :
    parse text = if document.depth ≤ 127 then .ok document.settled else .error .malformed := by
  obtain ⟨before, written, after, blankBefore, blankAfter, parts, denotes⟩ := holds
  have ends : Reader.Ends after := by
    simpa using Reader.Ends.behind blankAfter Reader.ends_nil
  have read := Reader.takes_denoted denotes depthLimit after ends
  rw [← Reader.lenient_value depthLimit before blankBefore, ← List.append_assoc, ← parts] at read
  unfold parse
  by_cases fits : document.depth ≤ depthLimit
  · rw [Reader.whereFits, if_pos fits] at read
    rw [Reader.whole_of_run read, if_pos (List.all_eq_true.mpr blankAfter)]
    exact (if_pos fits).symm
  · rw [Reader.whereFits, if_neg fits] at read
    rw [Reader.whole_of_fault read]
    exact (if_neg fits).symm

end Multimethod.Json
