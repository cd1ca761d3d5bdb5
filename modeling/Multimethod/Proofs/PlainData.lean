import Mathlib.Data.List.Forall2
import Multimethod.Arguments
import Multimethod.Proofs.ByteOrder
import Multimethod.Proofs.ExactIntegers
import Multimethod.Proofs.Parts
import Multimethod.Proofs.Taken

/-!
Values that are read of texts. A text is read as the value of the document that it holds, and its arguments
as the values of what that document has for them (`parse_value_iff`, `parse_arguments_iff`). Such values are
plain data through and through (`Datum`), and they are null where the document is and nowhere else
(`ReadFrom`).
-/
namespace Multimethod

/-! ### Places -/

/-- A step from a document or a value into it. -/
inductive Step where
  | item (index : Nat)
  | field (key : String)

/-- What stands at a place within a document as it is written; of several members under one key only the last
counts. -/
def Json.at? : Json → List Step → Option Json
  | document, [] => some document
  | .array items, .item index :: path => items[index]?.bind (·.at? path)
  | .object members, .field key :: path => (Fields.get? members.reverse key).bind (·.at? path)
  | _, _ => none

/-- What stands at a place within a value. -/
def Value.at? : Value → List Step → Option Value
  | value, [] => some value
  | .array items, .item index :: path => items[index]?.bind (·.at? path)
  | .hash fields, .field key :: path => (Fields.get? fields key).bind (·.at? path)
  | _, _ => none

namespace Json

/-! ### The value of a document -/

/-- The value that is read of a document as it is written. -/
def toValue (document : Json) : Value :=
  Value.ofJson document.settled

/-- The arguments that a document as it is written has. -/
def arguments : Json → List Json
  | .array items => items
  | other => [other]

private theorem toValue_array (items : List Json) : (array items).toValue = .array (items.map toValue) := by
  rw [toValue, settled_array, Value.ofJson, Value.itemsOfJson_eq_map, List.map_map]
  rfl

theorem toValue_object (members : Fields Json) :
    (object members).toValue = .hash (Fields.mapItems toValue (sortMembers members)) := by
  rw [toValue, settled_object, Value.ofJson, Value.fieldsOfJson_eq_map]
  exact congrArg Value.hash (Fields.mapItems_mapItems settled Value.ofJson (sortMembers members))

/-- Only null is read as null. -/
theorem toValue_null_iff (document : Json) : document.toValue = .null ↔ document = .null := by
  cases document with
  | array items => simp [toValue_array]
  | object members => simp [toValue_object]
  | _ => simp [toValue, settled, Value.ofJson]

theorem arguments_toValue (document : Json) :
    Arguments.ofJson document.settled = document.arguments.map toValue := by
  cases document with
  | array items =>
    rw [settled_array, Arguments.ofJson, List.map_map]
    rfl
  | _ => rfl

/-- What is read at a place is the value of what is written there. -/
theorem at?_toValue (document : Json) (path : List Step) :
    document.toValue.at? path = (document.at? path).map toValue := by
  induction path generalizing document with
  | nil => simp only [Value.at?, Json.at?, Option.map_some]
  | cons step path ih =>
    cases document with
    | array items =>
      rw [toValue_array]
      cases step with
      | item index =>
        simp only [Value.at?, Json.at?, List.getElem?_map, Option.bind_map, Option.map_bind]
        congr 1
        funext item
        exact ih item
      | field key => rfl
    | object members =>
      rw [toValue_object]
      cases step with
      | item index => rfl
      | field key =>
        simp only [Value.at?, Json.at?, Fields.get?_mapItems, get?_sortMembers_last, Option.bind_map,
          Option.map_bind]
        congr 1
        funext item
        exact ih item
    | _ => cases step <;> rfl

/-! ### Parts of texts -/

namespace Reader

private theorem infix_joinComma {part : List Char} {parts : List (List Char)} (among : part ∈ parts) :
    part <:+: joinComma parts := by
  fun_induction joinComma parts with
  | case1 => cases among
  | case2 only =>
    cases List.mem_singleton.mp among
    exact List.infix_refl _
  | case3 first rest _ ih =>
    rcases List.mem_cons.mp among with rfl | later
    · exact ⟨[], _, rfl⟩
    · exact (ih later).trans ⟨first ++ [','], [], by simp⟩

private theorem infix_bracketed {opening closing : Char} {lead : List Char} {parts : List Padded}
    {part : Padded}
    (among : part ∈ parts) : part.text <:+: bracketed opening closing lead parts := by
  have inside : part.text <:+: part.chars := ⟨part.before, part.after, rfl⟩
  have joined := infix_joinComma (List.mem_map_of_mem (f := Padded.chars) among)
  have whole : joinComma (parts.map Padded.chars) <:+: bracketed opening closing lead parts :=
    ⟨opening :: lead, [closing], by simp [bracketed]⟩
  exact (inside.trans joined).trans whole

private theorem infix_layout (member : Member) : member.value <:+: member.layout.text :=
  ⟨quote member.key ++ member.between ++ ':' :: member.beyond, [], by simp [Member.layout]⟩

/-- What stands at a place within a document is denoted by a part of its text. -/
theorem part_of_denotes {written : List Char} {document inner : Json} {path : List Step}
    (denotes : Denotes written document) (held : document.at? path = some inner) :
    ∃ part, part <:+: written ∧ Denotes part inner := by
  induction path generalizing written document with
  | nil =>
    simp only [Json.at?, Option.some.injEq] at held
    exact ⟨written, List.infix_refl _, held ▸ denotes⟩
  | cons step path ih =>
    cases denotes with
    | @array lead entries _ _ each =>
      cases step with
      | field key => cases held
      | item index =>
        simp only [Json.at?] at held
        obtain ⟨item, there, held⟩ := Option.bind_eq_some_iff.mp held
        obtain ⟨entry, among, rfl⟩ := List.mem_map.mp (List.mem_of_getElem? there)
        obtain ⟨part, within, denotes⟩ := ih (each entry among) held
        exact ⟨part, within.trans (infix_bracketed (List.mem_map_of_mem among)), denotes⟩
    | @object lead entries _ _ _ each =>
      cases step with
      | item index => cases held
      | field key =>
        simp only [Json.at?] at held
        obtain ⟨item, there, held⟩ := Option.bind_eq_some_iff.mp held
        obtain ⟨entry, among, same⟩ := List.mem_map.mp (List.mem_reverse.mp (Fields.mem_of_get? there))
        have value : Denotes entry.1.value item := by
          rw [← show entry.2.2 = item from congrArg Prod.snd same]
          exact each entry among
        obtain ⟨part, within, denotes⟩ := ih value held
        refine ⟨part, within.trans ((infix_layout entry.1).trans ?_), denotes⟩
        exact infix_bracketed (List.mem_map_of_mem among)
    | _ => cases step <;> cases held

/-- Null is what one text denotes and no other. -/
theorem denotes_null_iff {written : List Char} {document : Json} (denotes : Denotes written document) :
    document = .null ↔ written = ['n', 'u', 'l', 'l'] := by
  constructor
  · rintro rfl
    cases denotes
    rfl
  · rintro rfl
    have flat : Json.null.depth ≤ document.depth := Nat.zero_le _
    have read := takes_denoted denotes document.depth [] ends_nil
    rw [takes_denoted .null document.depth [] ends_nil, whereFits, whereFits, if_pos flat,
      if_pos (Nat.le_refl _)] at read
    have null : document.settled = .null := (congrArg Prod.fst (Except.ok.inj read)).symm
    exact (toValue_null_iff document).mp (congrArg Value.ofJson null)

end Reader

end Json

/-! ### Plain data -/

/-- The values that texts hold, each without regard to what is within it. Numbers are finite, and the fields of a
hash stand in the order of the bytes of their keys. -/
inductive Value.Datum : Value → Prop where
  | null : Datum .null
  | bool (b : Bool) : Datum (.bool b)
  | number (x : Double.Finite) : Datum (.number (.finite x))
  | string (text : String) : Datum (.string text)
  | array (items : List Value) : Datum (.array items)
  | hash {fields : Fields Value}
      (ascending : fields.Pairwise fun field later => Text.bytes field.1 < Text.bytes later.1) :
      Datum (.hash fields)

namespace Json

/-- A number that is written in a document is finite. -/
theorem finite_of_number {text : Reader.NumberText} {n : Number} (stands : text.number? = some n) :
    ∃ x, n.toDouble = .finite x := by
  cases n with
  | float x => exact ⟨x, rfl⟩
  | int n =>
    have bound := Reader.natAbs_of_number stands
    refine Double.ofInt_finite ?_
    by_cases zero : n.natAbs = 0
    · rw [zero]
      decide
    · exact Nat.lt_trans ((Nat.log2_lt zero).mpr bound) (by decide)

private theorem datum_of_denotes {written : List Char} {document : Json}
    (denotes : Reader.Denotes written document) :
    document.toValue.Everywhere Value.Datum := by
  have leaf : ∀ {value : Value}, value.Datum → value.parts = [] → value.Everywhere Value.Datum := by
    intro value datum none
    exact Value.everywhere_iff.mpr ⟨datum, fun part among => absurd (none ▸ among) List.not_mem_nil⟩
  induction denotes with
  | null => exact leaf .null rfl
  | bool b => exact leaf (.bool b) rfl
  | number stands =>
    obtain ⟨x, finite⟩ := finite_of_number stands
    refine leaf ?_ rfl
    rw [toValue, settled, Value.ofJson, finite]
    exact .number x
  | @string _ text => exact leaf (.string text) rfl
  | @array _ entries _ _ _ ih =>
    rw [toValue_array]
    refine Value.everywhere_iff.mpr ⟨.array _, fun part among => ?_⟩
    obtain ⟨item, listed, rfl⟩ := List.mem_map.mp among
    obtain ⟨entry, present, rfl⟩ := List.mem_map.mp listed
    exact ih entry present
  | @object _ entries _ _ _ _ ih =>
    rw [toValue_object]
    have ascending := ascending_sortMembers (entries.map Prod.snd)
    refine Value.everywhere_iff.mpr ⟨.hash ?_, fun part among => ?_⟩
    · exact List.pairwise_map.mpr (ascending.imp (Text.lt_iff_bytes _ _).mp)
    · rw [Value.parts, Fields.items_mapItems] at among
      obtain ⟨item, held, rfl⟩ := List.mem_map.mp among
      obtain ⟨member, sorted, rfl⟩ := List.mem_map.mp held
      obtain ⟨entry, present, rfl⟩ := List.mem_map.mp (mem_sortMembers sorted)
      exact ih entry present

/-- A value as it is read of a document: plain data, and null at the places where the document is null. -/
structure ReadFrom (value : Value) (document : Json) : Prop where
  data : value.Everywhere Value.Datum
  nulls : ∀ path, value.at? path = some .null ↔ document.at? path = some .null

private theorem readFrom_of_denotes {written : List Char} {document : Json}
    (denotes : Reader.Denotes written document) : ReadFrom document.toValue document where
  data := datum_of_denotes denotes
  nulls path := by
    rw [at?_toValue, Option.map_eq_some_iff]
    constructor
    · rintro ⟨inner, held, null⟩
      rw [held, (toValue_null_iff inner).mp null]
    · intro held
      exact ⟨.null, held, rfl⟩

/-- Everything that is denoted as an argument is denoted by some text. -/
theorem arguments_denoted {written : List Char} {document : Json} (denotes : Reader.Denotes written document) :
    ∀ argument ∈ document.arguments, ∃ text, Reader.Denotes text argument := by
  intro argument among
  have whole := denotes
  cases denotes with
  | array _ _ each =>
    obtain ⟨entry, present, rfl⟩ := List.mem_map.mp among
    exact ⟨_, each entry present⟩
  | _ =>
    cases List.mem_singleton.mp among
    exact ⟨_, whole⟩

end Json

/-! ### Whole texts -/

/-- Whatever is made of a document is made of the text that it is read of. -/
theorem made_of_text_iff {α : Type} {text : String} {make : Json → α} {result : α} :
    ((do return make (← (Json.parse text).mapError .json)) : Except Error α) = .ok result ↔
      ∃ document, Json.Holds text document ∧ document.depth ≤ 127 ∧ result = make document.settled := by
  constructor
  · intro made
    cases read : Json.parse text with
    | error fault =>
      rw [read] at made
      cases made
    | ok json =>
      obtain ⟨document, holds, fits, rfl⟩ := Json.parse_ok_iff.mp read
      rw [read] at made
      cases made
      exact ⟨document, holds, fits, rfl⟩
  · rintro ⟨document, holds, fits, rfl⟩
    rw [Json.parse_ok_iff.mpr ⟨document, holds, fits, rfl⟩]
    rfl

/-- The values of texts are those of the documents that they hold, up to a depth. -/
theorem parse_value_iff {text : String} {value : Value} : Value.parse text = .ok value ↔
    ∃ document, Json.Holds text document ∧ document.depth ≤ 127 ∧ value = document.toValue :=
  made_of_text_iff

/-- The arguments that texts hold are the values of what their documents have for arguments. -/
theorem parse_arguments_iff {text : String} {args : List Value} : Arguments.parse text = .ok args ↔
    ∃ document, Json.Holds text document ∧ document.depth ≤ 127 ∧
      args = document.arguments.map Json.toValue := by
  simp only [← Json.arguments_toValue]
  exact made_of_text_iff

theorem readFrom_of_holds {text : String} {document : Json} (holds : Json.Holds text document) :
    Json.ReadFrom document.toValue document ∧
      List.Forall₂ Json.ReadFrom (document.arguments.map Json.toValue) document.arguments := by
  obtain ⟨_, _, _, _, _, _, denotes⟩ := holds
  refine ⟨Json.readFrom_of_denotes denotes, ?_⟩
  rw [List.forall₂_map_left_iff, List.forall₂_same]
  intro argument among
  obtain ⟨text, denotes⟩ := Json.arguments_denoted denotes argument among
  exact Json.readFrom_of_denotes denotes

end Multimethod
