import Multimethod.Proofs.Rows

/-!
Documents that are passed over. The grammar of documents is a relation of its own (`Grammatical`): it has
blanks wherever they may stand, numbers of any size, code units without a partner, and any depth. Every such
text is taken by the reader that does not ask what it holds, whatever stands behind it (`takes_ignored`).
-/
namespace Multimethod.Json.Reader

/-! ### The grammar -/

/-- A member of an object with the blanks around each of its parts. The key is what its quotes enclose. -/
structure Member where
  before : List Char
  key : List Char
  between : List Char
  beyond : List Char
  value : List Char
  after : List Char

def Member.layout (member : Member) : Padded where
  before := member.before
  text := quote member.key ++ (member.between ++ ':' :: (member.beyond ++ member.value))
  after := member.after

structure Member.Spaced (member : Member) : Prop where
  before : Blank member.before
  between : Blank member.between
  beyond : Blank member.beyond
  after : Blank member.after

theorem Member.Spaced.layout {member : Member} (spaced : member.Spaced) : member.layout.Spaced :=
  ⟨spaced.before, spaced.after⟩

/-- The texts of documents, without blanks around them. -/
inductive Grammatical : List Char → Prop where
  | null : Grammatical ['n', 'u', 'l', 'l']
  | bool (b : Bool) : Grammatical (boolChars b)
  | number (numeral : Numeral) : Grammatical numeral.chars
  | string {written : List Char} (quotable : Quotable written) : Grammatical (quote written)
  | array {lead : List Char} {items : List Padded} (blank : Blank lead)
      (spaced : ∀ item ∈ items, item.Spaced) (each : ∀ item ∈ items, Grammatical item.text) :
      Grammatical (bracketed '[' ']' lead items)
  | object {lead : List Char} {members : List Member} (blank : Blank lead)
      (spaced : ∀ member ∈ members, member.Spaced) (keys : ∀ member ∈ members, Quotable member.key)
      (each : ∀ member ∈ members, Grammatical member.value) :
      Grammatical (bracketed '\x7b' '\x7d' lead (members.map Member.layout))

theorem starts_of_grammatical {text : List Char} (grammatical : Grammatical text) :
    Starts ']' (· != ']') text := by
  cases grammatical with
  | null => exact ⟨_, _, rfl, by decide⟩
  | bool b => cases b <;> exact ⟨_, _, rfl, by decide⟩
  | number numeral =>
    obtain ⟨c, more, written, front⟩ := numeral.front
    have unclosed : c ≠ ']' := front_ne front (by decide)
    exact ⟨c, more, written, front_solid front, unclosed, bne_iff_ne.mpr unclosed⟩
  | string => exact ⟨_, _, rfl, by decide⟩
  | array => exact ⟨_, _, rfl, by decide⟩
  | object => exact ⟨_, _, rfl, by decide⟩

theorem starts_member (member : Member) : Starts '\x7d' (· == '"') member.layout.text :=
  ⟨_, _, rfl, by decide⟩

/-! ### Passing over -/

private theorem lenient_skip (bound : Nat) : Lenient (skip bound) := by
  cases bound with
  | zero => exact fun _ _ _ => rfl
  | succ bound => exact lenient_upcoming.bind _

private theorem length_le_joinComma {part : List Char} {parts : List (List Char)} (among : part ∈ parts) :
    part.length ≤ (joinComma parts).length := by
  fun_induction joinComma parts with
  | case1 => cases among
  | case2 only =>
    cases List.mem_singleton.mp among
    exact Nat.le_refl _
  | case3 first rest _ ih =>
    rw [List.length_append, List.length_cons]
    rcases List.mem_cons.mp among with rfl | later
    · omega
    · have shorter := ih later
      omega

private theorem length_lt_bracketed {opening closing : Char} {lead : List Char} {parts : List Padded}
    {part : Padded} (among : part ∈ parts) :
    part.text.length < (bracketed opening closing lead parts).length := by
  have within := length_le_joinComma (List.mem_map_of_mem (f := Padded.chars) among)
  simp only [bracketed, Padded.chars, List.length_append, List.length_cons] at within ⊢
  omega

/-- A string is passed over between its quotes. -/
theorem run_skipped_string {written : List Char} (quotable : Quotable written) (rest : List Char) :
    (discard (stringOf unpairedCode)).run (quote written ++ rest) = .ok (⟨⟩, rest) := by
  obtain ⟨text, read⟩ := run_quotable quotable rest
  exact run_discard (run_stringOf read)

theorem Member.text_append (member : Member) (rest : List Char) : member.layout.text ++ rest =
    quote member.key ++ (member.between ++ ':' :: (member.beyond ++ (member.value ++ rest))) := by
  simp [Member.layout]

/-- Behind the key of a member comes its colon. -/
theorem run_colon {member : Member} (spaced : member.Spaced) (rest : List Char) :
    (mark ':').run (member.between ++ ':' :: (member.beyond ++ (member.value ++ rest))) =
      .ok ((), member.beyond ++ (member.value ++ rest)) :=
  (lenient_mark ':' _ spaced.between _).trans (run_mark (by decide) _)

/-- A member is passed over if what it holds is. -/
theorem takes_skipped_member {member : Member} (spaced : member.Spaced) (key : Quotable member.key)
    {bound : Nat} (takes : Takes (skip bound) member.value (.ok ())) :
    Takes (do
        discard <| stringOf unpairedCode
        mark ':'
        skip bound) member.layout.text (.ok ()) := by
  intro rest ends
  rw [member.text_append, run_then (run_skipped_string key _), run_then (run_colon spaced rest),
    lenient_skip bound _ spaced.beyond]
  exact takes rest ends

/-- Items that are all passed over come to nothing. -/
theorem foldlM_pass {α : Type} (entries : List α) :
    entries.foldlM (fun _ _ => (.ok () : Except Fault Unit)) () = .ok () :=
  List.foldlM_pure

/-- A document is passed over by a reader that goes as deep as its text is long. -/
theorem takes_skip {text : List Char} (grammatical : Grammatical text) {bound : Nat}
    (enough : text.length < bound) : Takes (skip bound) text (.ok ()) := by
  induction bound generalizing text with
  | zero => exact absurd enough (Nat.not_lt_zero _)
  | succ bound ih =>
    cases grammatical with
    | null => exact fun rest _ => rfl
    | bool b => cases b <;> exact fun rest _ => rfl
    | number numeral =>
      intro rest ends
      obtain ⟨c, more, written, front⟩ := numeral.front
      have number : (c = '-' || c.isDigit) = true := by simpa using front
      have next : upcoming.run (numeral.chars ++ rest) = .ok (c, numeral.chars ++ rest) := by
        rw [written]
        exact run_upcoming (front_solid front) _
      rw [skip, run_then next, if_neg (front_ne front (by decide)), if_neg (front_ne front (by decide)),
        if_neg (front_ne front (by decide)), if_pos number]
      exact run_discard (run_numberText numeral ends _)
    | string quotable =>
      intro rest _
      rw [skip]
      refine (run_then (run_upcoming (c := '"') (by decide) _)).trans ?_
      exact run_skipped_string quotable rest
    | array blank spaced each =>
      have row : Takes (arrayItems (fun _ => skip bound) ()) _ _ :=
        takes_items (.inl rfl) blank spaced (fun item among => starts_of_grammatical (each item among))
          (fun item among _ => ih (each item among)
            (Nat.lt_of_lt_of_le (length_lt_bracketed among) (Nat.le_of_lt_succ enough))) ()
      rw [foldlM_pass, List.map_id'] at row
      intro rest ends
      rw [skip]
      refine (run_then (run_upcoming (c := '[') (by decide) _)).trans ?_
      rw [if_pos rfl]
      exact row rest ends
    | @object lead members blank spaced keys each =>
      have smaller : ∀ member ∈ members, member.value.length < bound := by
        intro member among
        have within : member.layout.text.length <
            (bracketed '\x7b' '\x7d' lead (members.map Member.layout)).length :=
          length_lt_bracketed (List.mem_map_of_mem among)
        have inside : member.value.length ≤ member.layout.text.length := by
          simp only [Member.layout, List.length_append, List.length_cons]
          omega
        exact Nat.lt_of_le_of_lt inside (Nat.lt_of_lt_of_le within (Nat.le_of_lt_succ enough))
      have row : Takes (items '\x7b' '\x7d' (· == '"') (fun _ => do
          discard <| stringOf unpairedCode
          mark ':'
          skip bound) ()) _ _ :=
        takes_items (.inr rfl) blank (fun member among => (spaced member among).layout)
          (fun member _ => starts_member member)
          (fun member among _ => takes_skipped_member (spaced member among) (keys member among)
            (ih (each member among) (smaller member among))) ()
      rw [foldlM_pass] at row
      intro rest ends
      rw [skip]
      refine (run_then (run_upcoming (c := '\x7b') (by decide) _)).trans ?_
      rw [if_neg (by decide), if_pos rfl]
      exact row rest ends

/-- A document is passed over with the blanks in front of it. -/
theorem takes_ignored {blanks text : List Char} (blank : Blank blanks) (grammatical : Grammatical text) :
    Takes ignored (blanks ++ text) (.ok ()) := by
  intro rest ends
  have enough : text.length < (blanks ++ text ++ rest).length + 1 := by
    simp only [List.length_append]
    omega
  unfold ignored
  rw [run_then (run_get _), List.append_assoc, lenient_skip _ blanks blank]
  rw [← List.append_assoc]
  exact takes_skip grammatical enough rest ends

end Multimethod.Json.Reader
