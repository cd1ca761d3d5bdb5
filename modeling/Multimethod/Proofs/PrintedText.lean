import Multimethod.Proofs.Denotation

/-!
Documents read from the text that they were printed as. A document of integers, with the members of its
objects in order, is what its own text holds, provided that the reader goes deep enough for it; the text of
one that is nested deeper is malformed (`parse_compact`).
-/
namespace Multimethod.Json

/-- Documents without fractions and with the members of each object in order, each key once. -/
inductive Plain : Json → Prop where
  | null : Plain .null
  | bool {b : Bool} : Plain (.bool b)
  | int {n : Int} (least : -(Nat.pow 2 63 : Nat) ≤ n) (below : n < (Nat.pow 2 64 : Nat)) :
      Plain (.number (.int n))
  | string {text : String} : Plain (.string text)
  | array {items : List Json} (each : ∀ item ∈ items, Plain item) : Plain (.array items)
  | object {members : List (String × Json)} (ascending : Ascending members)
      (each : ∀ member ∈ members, Plain member.2) : Plain (.object members)

/-- Nothing of such a document is lost when it is read. -/
theorem settled_of_plain {json : Json} (plain : json.Plain) : json.settled = json := by
  induction plain with
  | array _ ih => rw [settled_array, (List.map_congr_left ih).trans (List.map_id _)]
  | @object members ascending _ ih =>
    have each : ∀ item ∈ members.map Prod.snd, item.settled = id item := List.forall_mem_map.mpr ih
    rw [settled_object, sortMembers_of_ascending ascending, Fields.mapItems_congr each]
    exact congrArg Json.object (List.map_id _)
  | _ => rw [settled]

namespace Reader

/-- A member as it is printed. -/
def Member.printed (member : String × Json) : Member where
  before := []
  key := member.1.toList.flatMap escapeChar
  between := []
  beyond := []
  value := member.2.chars
  after := []

private theorem Member.printed_spaced (member : String × Json) : (Member.printed member).Spaced :=
  ⟨blank_nil, blank_nil, blank_nil, blank_nil⟩

private theorem denotes_printed_array {items : List Json} (each : ∀ item ∈ items, Denotes item.chars item) :
    Denotes (Json.array items).chars (.array items) := by
  let entries := items.map fun item => (Padded.bare item.chars, item)
  have spaced : ∀ entry ∈ entries, entry.1.Spaced :=
    List.forall_mem_map.mpr fun item _ => Padded.bare_spaced item.chars
  have denoted : ∀ entry ∈ entries, Denotes entry.1.text entry.2 := List.forall_mem_map.mpr each
  have texts : entries.map Prod.fst = (items.map chars).map Padded.bare := by
    rw [List.map_map, List.map_map]
    rfl
  have documents : entries.map Prod.snd = items := by
    rw [List.map_map]
    exact List.map_id items
  have written := Denotes.array blank_nil spaced denoted
  rw [texts, documents, bracketed_bare] at written
  rwa [chars, itemChars_eq_map]

/-- Members are printed where they stand, also where one key comes up again. -/
theorem denotes_printed_object {members : List (String × Json)}
    (each : ∀ member ∈ members, Denotes member.2.chars member.2) :
    Denotes (Json.object members).chars (.object members) := by
  let entries := members.map fun member => (Member.printed member, member)
  have spaced : ∀ entry ∈ entries, entry.1.Spaced :=
    List.forall_mem_map.mpr fun member _ => Member.printed_spaced member
  have keys : ∀ entry ∈ entries, Spells entry.1.key entry.2.1.toList :=
    List.forall_mem_map.mpr fun member _ => spells_escaped member.1.toList
  have denoted : ∀ entry ∈ entries, Denotes entry.1.value entry.2.2 := List.forall_mem_map.mpr each
  have texts : entries.map (fun entry => entry.1.layout) =
      (members.map fun member => stringChars member.1 ++ ':' :: member.2.chars).map Padded.bare := by
    rw [List.map_map, List.map_map]
    rfl
  have documents : entries.map Prod.snd = members := by
    rw [List.map_map]
    exact List.map_id members
  have written := Denotes.object blank_nil spaced keys denoted
  rw [texts, documents, bracketed_bare] at written
  rw [chars, memberChars_eq_map]
  exact written

/-- The printed text of a document denotes it. -/
theorem denotes_of_plain {json : Json} (plain : json.Plain) : Denotes json.chars json := by
  induction plain with
  | null => exact .null
  | @bool b => exact .bool b
  | @int n least below =>
    rw [chars, Number.chars, ← Numeral.chars_ofInt]
    exact .number (number_of_ofInt least below)
  | @string text => exact .string (spells_escaped text.toList)
  | array _ ih => exact denotes_printed_array ih
  | object _ _ ih => exact denotes_printed_object ih

end Reader

theorem holds_compact {json : Json} (denotes : Reader.Denotes json.chars json) : Holds json.compact json :=
  ⟨[], json.chars, [], Reader.blank_nil, Reader.blank_nil, by simp [compact], denotes⟩

/-- What is printed of a document without fractions is read as that document, as far as the reader goes. -/
theorem parse_compact {json : Json} (plain : json.Plain) :
    parse json.compact = if json.depth ≤ 127 then .ok json else .error .malformed := by
  rw [parse_of_holds (holds_compact (Reader.denotes_of_plain plain)), settled_of_plain plain]

end Multimethod.Json
