import Multimethod.Definition.Answer
import Multimethod.Proofs.PlainData
import Multimethod.Proofs.Texts

/-!
Arguments with brackets around them and without. The arguments of a text are those of its value, and in
brackets that value is the only argument, as long as its document is nested at most 126 deep; one level more
is read alone but not in brackets (`brackets_make_one_argument`).
-/
namespace Multimethod

/-- The arguments that a value stands for: an array stands for its items, any other value for itself. -/
def Value.arguments : Value → List Value
  | .array items => items
  | other => [other]

/-- The arguments of a text are those of its value, and a text without a value has the same fault. -/
theorem parse_arguments_eq (text : String) :
    Arguments.parse text = (Value.parse text).map Value.arguments := by
  have same : ∀ json, Arguments.ofJson json = (Value.ofJson json).arguments := by
    intro json
    cases json with
    | array items => rw [Arguments.ofJson, Value.ofJson, Value.arguments, Value.itemsOfJson_eq_map]
    | _ => rfl
  unfold Arguments.parse Value.parse
  cases Json.parse text with
  | error fault => rfl
  | ok json => exact congrArg Except.ok (same json)

namespace Json

variable {text : String} {document : Json}

private theorem parse_value_of_holds (holds : Holds text document) : Value.parse text =
    if document.depth ≤ 127 then .ok document.toValue else .error (.json .malformed) := by
  unfold Value.parse
  rw [parse_of_holds holds]
  split <;> rfl

private theorem parse_arguments_of_holds (holds : Holds text document) : Arguments.parse text =
    if document.depth ≤ 127 then .ok (document.arguments.map toValue) else .error (.json .malformed) := by
  unfold Arguments.parse
  rw [parse_of_holds holds, ← arguments_toValue]
  split <;> rfl

/-- In brackets a text holds the array of its document, with any blanks next to the brackets. -/
theorem holds_in_brackets (holds : Holds text document) {before after : String}
    (blankBefore : Reader.Blank before.toList) (blankAfter : Reader.Blank after.toList) :
    Holds ("[" ++ before ++ text ++ after ++ "]") (.array [document]) := by
  obtain ⟨lead, written, trail, blankLead, blankTrail, parts, denotes⟩ := holds
  let part : Reader.Padded := ⟨before.toList ++ lead, written, trail ++ after.toList⟩
  have spaced : ∀ entry ∈ [(part, document)], entry.1.Spaced :=
    List.forall_mem_singleton.mpr ⟨blankBefore.append blankLead, blankTrail.append blankAfter⟩
  have each : ∀ entry ∈ [(part, document)], Reader.Denotes entry.1.text entry.2 :=
    List.forall_mem_singleton.mpr denotes
  refine ⟨[], _, [], Reader.blank_nil, Reader.blank_nil, ?_, .array Reader.blank_nil spaced each⟩
  simp [parts, part, Reader.bracketed, Reader.Padded.chars, joinComma]

private theorem depth_singleton (document : Json) : (array [document]).depth = document.depth + 1 := by
  rw [depth, depthOfItems, depthOfItems, Nat.max_zero]

/-- In brackets a text has its own value as the only argument, if there is a level left for the brackets. -/
theorem parse_in_brackets (holds : Holds text document) {before after : String}
    (blankBefore : Reader.Blank before.toList) (blankAfter : Reader.Blank after.toList) :
    Arguments.parse ("[" ++ before ++ text ++ after ++ "]") =
      if document.depth ≤ 126 then .ok [document.toValue] else .error (.json .malformed) := by
  rw [parse_arguments_of_holds (holds_in_brackets holds blankBefore blankAfter), depth_singleton]
  exact if_congr Nat.succ_le_succ_iff rfl rfl

end Json

/-- Texts with the same arguments are the same call, on every table. -/
theorem called_alike {text other : String} (same : Arguments.parse text = Arguments.parse other) :
    (∀ {P H : Type} {m : Type → Type} [Monad m] (host : Host P H m) (table : Table P H),
      (Arguments.parse text).map (table.resolve host) = (Arguments.parse other).map (table.resolve host)) ∧
    ∀ source, Definition.answer source text = Definition.answer source other ∧
      Definition.verdicts source text = Definition.verdicts source other := by
  unfold Definition.answer Definition.verdicts
  rw [same]
  exact ⟨fun _ _ => rfl, fun _ => ⟨rfl, rfl⟩⟩

/-- In brackets a text that is nested at most 126 deep has its own value as the only argument, so a
document that is no array makes the same call with brackets and without. At 127 the text alone is read,
and deeper neither is. -/
theorem brackets_make_one_argument (text : String) :
    Arguments.parse text = (Value.parse text).map Value.arguments ∧
    (∀ value, Value.parse text = .ok value → ∃ document, Json.Holds text document ∧ document.depth ≤ 127) ∧
    ∀ document, Json.Holds text document → ∀ before after : String,
      Json.Reader.Blank before.toList → Json.Reader.Blank after.toList →
      let bracketed := "[" ++ before ++ text ++ after ++ "]"
      (document.depth ≤ 126 → ∃ value, Value.parse text = .ok value ∧
        Arguments.parse bracketed = .ok [value] ∧
        ((∀ items, value ≠ .array items) → Arguments.parse bracketed = Arguments.parse text ∧
          (∀ {P H : Type} {m : Type → Type} [Monad m] (host : Host P H m) (table : Table P H),
            (Arguments.parse bracketed).map (table.resolve host) =
              (Arguments.parse text).map (table.resolve host)) ∧
          ∀ source, Definition.answer source bracketed = Definition.answer source text ∧
            Definition.verdicts source bracketed = Definition.verdicts source text)) ∧
      (document.depth = 127 → (∃ value, Value.parse text = .ok value) ∧
        Arguments.parse bracketed = .error (.json .malformed)) ∧
      (128 ≤ document.depth → Value.parse text = .error (.json .malformed) ∧
        Arguments.parse bracketed = .error (.json .malformed)) := by
  refine ⟨parse_arguments_eq text, fun value read => ?_, ?_⟩
  · obtain ⟨document, holds, fits, -⟩ := parse_value_iff.mp read
    exact ⟨document, holds, fits⟩
  intro document holds before after blankBefore blankAfter bracketed
  have alone := Json.parse_value_of_holds holds
  have within := Json.parse_in_brackets holds blankBefore blankAfter
  refine ⟨fun shallow => ?_, fun edge => ?_, fun deep => ?_⟩
  · rw [if_pos (by omega)] at alone
    rw [if_pos shallow] at within
    refine ⟨_, alone, within, fun single => ?_⟩
    have same : Arguments.parse bracketed = Arguments.parse text := by
      rw [within, parse_arguments_eq, alone]
      cases made : document.toValue with
      | array items => exact absurd made (single items)
      | _ => rfl
    exact ⟨same, called_alike same⟩
  · rw [if_pos (by omega)] at alone
    rw [if_neg (by omega)] at within
    exact ⟨⟨_, alone⟩, within⟩
  · rw [if_neg (by omega)] at alone
    rw [if_neg (by omega)] at within
    exact ⟨alone, within⟩

/-- An object with one field is read and refused in brackets, since a member that the field overrides is too
deep. -/
theorem overridden_members_count :
    ∃ text document, Json.Holds text document ∧ document.depth = 127 ∧
      document.toValue = .hash [("a", .null)] ∧ (∃ value, Value.parse text = .ok value) ∧
      Arguments.parse ("[" ++ "" ++ text ++ "" ++ "]") = .error (.json .malformed) := by
  obtain ⟨wellFormed, exact, deep⟩ := Value.nested_exact 125
  let inner := (Value.nested 125).toJson
  let document : Json := .object [("a", inner), ("a", .null)]
  have members : ∀ member ∈ [("a", inner), ("a", .null)], Json.Reader.Denotes member.2.chars member.2 := by
    have deepest := Json.Reader.denotes_of_plain (Value.plain_of_exact exact)
    exact List.forall_mem_cons.mpr ⟨deepest, List.forall_mem_singleton.mpr .null⟩
  have holds : Json.Holds document.compact document :=
    Json.holds_compact (Json.Reader.denotes_printed_object members)
  have depth : document.depth = 127 := by
    have inside : inner.depth = 126 := (Value.toJson_depth wellFormed).trans deep
    simp [document, Json.depth, Json.depthOfMembers, inside]
  have value : document.toValue = .hash [("a", .null)] := by
    rw [Json.toValue_object]
    simp [Json.sortMembers, Json.insertMember, Fields.mapItems, Json.toValue_null_iff]
  have edge := ((brackets_make_one_argument document.compact).2.2 document holds "" "" Json.Reader.blank_nil
    Json.Reader.blank_nil).2.1 depth
  exact ⟨document.compact, document, holds, depth, value, edge⟩

end Multimethod
