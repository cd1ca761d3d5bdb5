import Multimethod.Json.Record
import Multimethod.Proofs.Skipping

/-!
Records read from a text, whatever kind they are of. In the object form each member is taken with the fields
found before it: a field of the record is read once, and a member of any other name is passed over. In the
array form the items fill the fields in order, as far as there are items.
-/
namespace Multimethod.Json.Reader

variable {α σ : Type}

/-! ### Blanks and kinds -/

theorem lenient_stringValue : Lenient stringValue :=
  lenient_upcoming.bind _

theorem lenient_boolValue : Lenient boolValue :=
  lenient_upcoming.bind _

theorem lenient_record (kind : Record σ α) : Lenient (record kind) :=
  lenient_upcoming.bind _

theorem takes_stringValue {written : List Char} {text : String} (spells : Spells written text.toList) :
    Takes stringValue (quote written) (.ok text) := by
  intro rest _
  unfold stringValue
  refine (run_then (run_upcoming (c := '"') (by decide) _)).trans ?_
  rw [if_pos rfl]
  exact run_string spells rest

theorem takes_boolValue (b : Bool) : Takes boolValue (boolChars b) (.ok b) := by
  cases b <;> exact fun rest _ => rfl

/-! ### The object form -/

section Objects

variable {fields : List (Field σ)} {member : Member} {key : String}

/-- A member that names a field is read as that field, and refused where the field has been found before. -/
theorem takes_field {field : Field σ} (spaced : member.Spaced) (spells : Spells member.key key.toList)
    (known : fields.find? (fun field => field.name == key) = some field) {soFar : σ}
    (lenient : Lenient (field.read soFar)) {outcome : Except Fault σ}
    (takes : Takes (field.read soFar) member.value outcome) :
    Takes (do recordMember fields (← string) soFar) member.layout.text
      (if field.found soFar then .error (.mismatch (.duplicateField key)) else outcome) := by
  intro rest ends
  rw [member.text_append, run_then (run_string spells _)]
  unfold recordMember
  simp only [known]
  by_cases found : field.found soFar
  · rw [if_pos found, if_pos found]
    rfl
  · rw [if_neg found, if_neg found, run_then (run_colon spaced rest), lenient _ spaced.beyond]
    exact takes rest ends

/-- A member of any other name is passed over. -/
theorem takes_other (spaced : member.Spaced) (spells : Spells member.key key.toList)
    (unknown : fields.find? (fun field => field.name == key) = none)
    (grammatical : Grammatical member.value) (soFar : σ) :
    Takes (do recordMember fields (← string) soFar) member.layout.text (.ok soFar) := by
  intro rest ends
  have passed := takes_ignored spaced.beyond grammatical rest ends
  rw [List.append_assoc] at passed
  rw [member.text_append, run_then (run_string spells _)]
  unfold recordMember
  simp only [unknown]
  rw [run_then (run_colon spaced rest)]
  exact run_return passed fun _ => soFar

end Objects

private theorem run_finished {kind : Record σ α} {soFar : σ} {result : α}
    (finish : kind.finish soFar = some result)
    (report : Field σ → Mismatch) (text : List Char) :
    (finished kind soFar report).run text = .ok (result, text) := by
  unfold finished
  rw [finish]
  rfl

theorem takes_record_object {kind : Record σ α} {lead : List Char} {parts : List Padded} {soFar : σ}
    {result : α}
    (takes : Takes (objectMembers (recordMember kind.fields) kind.start)
      (bracketed '\x7b' '\x7d' lead parts) (.ok soFar))
    (finish : kind.finish soFar = some result) :
    Takes (record kind) (bracketed '\x7b' '\x7d' lead parts) (.ok result) := by
  intro rest ends
  unfold record
  refine (run_then (run_upcoming (c := '\x7b') (by decide) _)).trans ?_
  rw [if_neg (by decide), if_pos rfl]
  exact (run_then (takes rest ends)).trans (run_finished finish _ rest)

/-! ### The array form -/

/-- Items that are read as the first fields of a record, each with the fields found before it. -/
inductive Fills : List (Field σ) → List Padded → σ → σ → Prop where
  | done {fields : List (Field σ)} {soFar : σ} : Fills fields [] soFar soFar
  | next {field : Field σ} {fields : List (Field σ)} {item : Padded} {items : List Padded}
      {before between after : σ} (spaced : item.Spaced) (starting : Starts ']' (· != ']') item.text)
      (takes : Takes (field.read before) item.text (.ok between)) (later : Fills fields items between after) :
      Fills (field :: fields) (item :: items) before after

/-- Fields are read as far as there are items. Where there is an item for each, the blanks behind the last one
are left. -/
theorem run_fieldsInOrder {fields : List (Field σ)} {items : List Padded} {soFar result : σ}
    (fills : Fills fields items soFar result) (first : Bool) {lead : List Char} (blank : Blank lead)
    (rest : List Char) :
    ∃ blanks, Blank blanks ∧ (fieldsInOrder fields first soFar).run
      (lead ++ (row first items ++ ']' :: rest)) = .ok (result, blanks ++ ']' :: rest) := by
  induction fills generalizing first lead with
  | @done fields soFar =>
    cases fields with
    | nil => exact ⟨lead, blank, rfl⟩
    | cons field fields =>
      refine ⟨[], blank_nil, ?_⟩
      rw [row, List.nil_append, fieldsInOrder,
        run_then (run_itemFollows_not (.inl rfl) (· != ']') first blank rest)]
      rfl
  | @next field fields item items before between after spaced starting takes _ ih =>
    obtain ⟨blanks, white, read⟩ := ih false spaced.after
    have goesOn := run_itemFollows starting (.inl rfl) blank spaced.before first
      (item.after ++ (row false items ++ ']' :: rest))
    have here := takes _ ((ends_row (.inl rfl) items rest).behind spaced.after)
    refine ⟨blanks, white, ?_⟩
    rw [row_cons_append, fieldsInOrder, run_then goesOn, if_pos rfl]
    exact (run_then here).trans read

theorem takes_record_array {kind : Record σ α} {lead : List Char} {items : List Padded} {soFar : σ}
    {result : α} (blank : Blank lead) (fills : Fills kind.fields items kind.start soFar)
    (finish : kind.finish soFar = some result) :
    Takes (record kind) (bracketed '[' ']' lead items) (.ok result) := by
  intro rest _
  obtain ⟨blanks, white, read⟩ := run_fieldsInOrder fills true blank rest
  have closes := (lenient_mark ']' blanks white _).trans (run_mark (by decide) rest)
  unfold record
  rw [bracketed_append, run_then (run_upcoming (by decide) _), if_pos rfl, run_then (run_one _ _),
    run_then read]
  refine (run_then (run_finished finish _ _)).trans ?_
  exact run_return closes fun _ => result

/-! ### Whole texts -/

/-- Blanks may stand around what is read. -/
theorem whole_of_takes {reader : Reader α} {before text after : List Char} {result : α}
    (lenient : Lenient reader) (takes : Takes reader text (.ok result)) (blankBefore : Blank before)
    (blankAfter : Blank after) : reader.whole (String.ofList (before ++ text ++ after)) = .ok result := by
  have ends : Ends after := by
    have behind := Ends.behind blankAfter ends_nil
    rwa [List.append_nil] at behind
  have read : reader.run (before ++ text ++ after) = .ok (result, after) := by
    rw [List.append_assoc, lenient before blankBefore]
    exact takes after ends
  unfold whole
  rw [String.toList_ofList, read]
  exact if_pos (List.all_eq_true.mpr blankAfter)

end Multimethod.Json.Reader
