import Multimethod.Proofs.Spelling

/-!
The texts of single rules and the rules they are read to. A rule that is a tag or the star is read back from
what is printed of it (`parse_display`), a text that is read is printed again, the question mark behind a
star apart (`display_of_parse`), and a union of several members prints as no single rule
(`parse_display_union`). `rule_texts_read_exactly` puts this together with what each text is read to.
-/
namespace Multimethod

variable {P : Type}

/-! ### Characters -/

namespace Word

/-- A character that occurs in the name of a tag, or the star. -/
def letter (c : Char) : Bool :=
  c.isLower || c == '*'

private theorem name_letters (word : Word) : word.name.toList.all letter = true := by
  have letters : ∀ tag? : Option Tag, (tag?.elim "*" Tag.name).toList.all letter = true := by
    intro tag?
    cases tag? with
    | none => decide
    | some tag => cases tag <;> decide
  exact letters word.tag?

/-- A text of a rule is made of such characters and at most one question mark, which ends it. -/
theorem mem_text {word : Word} {c : Char} (among : c ∈ word.text.toList) :
    letter c = true ∨ c = '?' := by
  have named : ∀ c ∈ word.name.toList, letter c = true := List.all_eq_true.mp word.name_letters
  unfold text at among
  split at among
  · rw [String.toList_append] at among
    rcases List.mem_append.mp among with inName | mark
    · exact .inl (named c inName)
    · exact .inr (List.mem_singleton.mp mark)
  · exact .inl (named c among)

theorem text_filled (word : Word) : word.text ≠ "" := by
  obtain ⟨tag?, nullable⟩ := word
  cases tag? with
  | none => cases nullable <;> decide
  | some tag => cases tag <;> cases nullable <;> decide

private theorem rule_eq_tag_iff {word : Word} {t : Tag} {nullable : Bool} :
    (word.rule : Rule P) = .tag t nullable ↔ word = ⟨some t, nullable⟩ := by
  obtain ⟨tag?, marked⟩ := word
  cases tag? <;> simp [rule]

private theorem rule_eq_wildcard_iff {word : Word} :
    (word.rule : Rule P) = .wildcard ↔ word = ⟨none, false⟩ ∨ word = ⟨none, true⟩ := by
  obtain ⟨tag?, marked⟩ := word
  cases tag? <;> cases marked <;> simp [rule]

end Word

namespace Rule

/-! ### What is read -/

private theorem parse_tag_iff (text : String) (t : Tag) (nullable : Bool) :
    (parse text : Except Error (Rule P)) = .ok (.tag t nullable) ↔ text = Word.text ⟨some t, nullable⟩ := by
  rw [parse_ok_iff]
  constructor
  · rintro ⟨word, rfl, read⟩
    rw [Word.rule_eq_tag_iff.mp read.symm]
  · exact fun written => ⟨_, written, rfl⟩

private theorem parse_wildcard_iff (text : String) :
    (parse text : Except Error (Rule P)) = .ok .wildcard ↔ text = "*" ∨ text = "*?" := by
  rw [parse_ok_iff]
  constructor
  · rintro ⟨word, rfl, read⟩
    rcases Word.rule_eq_wildcard_iff.mp read.symm with rfl | rfl
    · exact .inl rfl
    · exact .inr rfl
  · rintro (rfl | rfl)
    · exact ⟨⟨none, false⟩, rfl, rfl⟩
    · exact ⟨⟨none, true⟩, rfl, rfl⟩

/-- All other texts are refused, and the error carries the whole of the text. -/
theorem parse_refused_iff (text : String) (error : Error) :
    (parse text : Except Error (Rule P)) = .error error ↔
      (∀ t : Tag, text ≠ t.name ∧ text ≠ t.name ++ "?") ∧ text ≠ "*" ∧ text ≠ "*?" ∧
        error = .invalidRule text := by
  rw [parse_error_iff]
  constructor
  · rintro ⟨unwritten, reason⟩
    exact ⟨fun t => ⟨unwritten ⟨some t, false⟩, unwritten ⟨some t, true⟩⟩, unwritten ⟨none, false⟩,
      unwritten ⟨none, true⟩, reason⟩
  · rintro ⟨tags, star, markedStar, reason⟩
    refine ⟨fun word => ?_, reason⟩
    obtain ⟨tag?, nullable⟩ := word
    cases tag? with
    | none =>
      cases nullable with
      | false => exact star
      | true => exact markedStar
    | some t =>
      cases nullable with
      | false => exact (tags t).1
      | true => exact (tags t).2

/-- A text with any other character in it is refused, blanks and capitals among them. -/
theorem parse_foreign {text : String} {c : Char} (among : c ∈ text.toList)
    (foreign : Word.letter c = false) (unmarked : c ≠ '?') :
    (parse text : Except Error (Rule P)) = .error (.invalidRule text) := by
  refine parse_other fun word written => ?_
  rcases Word.mem_text (written ▸ among) with letter | mark
  · exact absurd letter (Bool.eq_false_iff.mp foreign)
  · exact unmarked mark

/-- One question mark is taken off, not two. -/
theorem parse_marked_twice (text : String) :
    (parse (text ++ "??") : Except Error (Rule P)) = .error (.invalidRule (text ++ "??")) := by
  refine parse_other fun word written => ?_
  have parted : text ++ "??" = (text ++ "?") ++ "?" := by
    rw [String.append_assoc]
    rfl
  have split := split_word word
  rw [← written, parted, split_marked] at split
  have named : text ++ "?" = word.name := congrArg Prod.fst split
  have mark : '?' ∈ word.name.toList := by simp [← named]
  exact absurd (List.all_eq_true.mp word.name_letters _ mark) (by decide)

/-! ### What is printed -/

/-- A tag, nullable or not, or the star: a rule that has a text of its own. -/
def Primitive : Rule P → Prop
  | .tag _ _ => True
  | .wildcard => True
  | _ => False

/-- The word for a tag or for the star. -/
def word : Rule P → Word
  | .tag t nullable => ⟨some t, nullable⟩
  | _ => ⟨none, false⟩

theorem Primitive.word_rule {rule : Rule P} (primitive : rule.Primitive) : rule.word.rule = rule := by
  cases rule with
  | tag t nullable => rfl
  | wildcard => rfl
  | _ => exact primitive.elim

/-- What is printed of such a rule is a text of it. -/
theorem Primitive.word_text {rule : Rule P} (primitive : rule.Primitive) :
    rule.word.text = rule.display := by
  cases rule with
  | tag t nullable =>
    rw [display]
    rfl
  | wildcard =>
    rw [display]
    rfl
  | _ => exact primitive.elim

theorem primitive_word (word : Word) : (word.rule : Rule P).Primitive := by
  obtain ⟨tag?, nullable⟩ := word
  cases tag? <;> trivial

private theorem parse_display {rule : Rule P} (primitive : rule.Primitive) :
    parse rule.display = .ok rule := by
  rw [← primitive.word_text, parse_text, primitive.word_rule]

/-- What has been read is printed as it was written, but for the question mark behind a star. -/
theorem display_of_parse {text : String} {rule : Rule P} (read : parse text = .ok rule) :
    rule.display = if text = "*?" then "*" else text := by
  obtain ⟨word, rfl, rfl⟩ := (parse_ok_iff text rule).mp read
  obtain ⟨tag?, nullable⟩ := word
  cases tag? with
  | none =>
    simp only [Word.rule, Option.elim, display]
    cases nullable <;> rfl
  | some t =>
    have tagged : Word.text ⟨some t, nullable⟩ ≠ "*?" := by cases t <;> cases nullable <;> decide
    rw [if_neg tagged, Word.rule, Option.elim, display]
    rfl

/-- Bars stand between the members of a union, and no text of a single rule has one. -/
theorem parse_display_union {members : List (Rule P)} (several : 2 ≤ members.length) :
    (parse (union members).display : Except Error (Rule P)) =
      .error (.invalidRule (union members).display) := by
  refine parse_foreign (c := '|') ?_ (by decide) (by decide)
  cases members with
  | nil => simp at several
  | cons first rest =>
    cases rest with
    | nil => simp at several
    | cons second rest => simp [display, displayEach]

/-- A text is a rule exactly if it is the name of a tag or a star, with at most one question mark behind
it. Tags and the star are read back from their print, and no union of two or more members prints as a
single rule. -/
theorem rule_texts_read_exactly :
    (∀ text t, (parse text : Except Error (Rule P)) = .ok (.tag t false) ↔ text = t.name) ∧
    (∀ text t, (parse text : Except Error (Rule P)) = .ok (.tag t true) ↔ text = t.name ++ "?") ∧
    (∀ text, (parse text : Except Error (Rule P)) = .ok .wildcard ↔ text = "*" ∨ text = "*?") ∧
    (∀ text error, (parse text : Except Error (Rule P)) = .error error ↔
      (∀ t : Tag, text ≠ t.name ∧ text ≠ t.name ++ "?") ∧ text ≠ "*" ∧ text ≠ "*?" ∧
        error = .invalidRule text) ∧
    (∀ text c, c ∈ text.toList → ¬ (c.isLower = true ∨ c = '*' ∨ c = '?') →
      (parse text : Except Error (Rule P)) = .error (.invalidRule text)) ∧
    (∀ text, (parse (text ++ "??") : Except Error (Rule P)) = .error (.invalidRule (text ++ "??"))) ∧
    (∀ rule : Rule P, rule.Primitive → parse rule.display = .ok rule) ∧
    (∀ text (rule : Rule P), parse text = .ok rule →
      rule.Primitive ∧ rule.display = if text = "*?" then "*" else text) ∧
    ∀ members : List (Rule P), 2 ≤ members.length →
      (parse (union members).display : Except Error (Rule P)) =
        .error (.invalidRule (union members).display) := by
  refine ⟨fun text t => parse_tag_iff text t false, fun text t => parse_tag_iff text t true,
    parse_wildcard_iff, parse_refused_iff, fun text c among foreign => ?_, parse_marked_twice,
    fun rule => parse_display, fun text rule read => ⟨?_, display_of_parse read⟩,
    fun members => parse_display_union⟩
  · have unlettered : Word.letter c = false := by
      rw [Word.letter, Bool.eq_false_iff, Ne, Bool.or_eq_true, beq_iff_eq]
      exact fun letter => foreign (letter.imp_right .inl)
    exact parse_foreign among unlettered fun mark => foreign (.inr (.inr mark))
  · obtain ⟨word, -, rfl⟩ := (parse_ok_iff text rule).mp read
    exact primitive_word word

/-- A star with its question mark is printed without it, a name with a capital is refused, and so is what
is printed of a union. -/
theorem marked_star_printed_bare :
    (parse "*?" : Except Error (Rule Empty)) = .ok .wildcard ∧
    (wildcard : Rule Empty).display = "*" ∧
    (parse "String" : Except Error (Rule Empty)) = .error (.invalidRule "String") ∧
    (parse (union [.tag .string true, .wildcard] : Rule Empty).display : Except Error (Rule Empty)) =
      .error (.invalidRule (union [.tag .string true, .wildcard] : Rule Empty).display) := by
  obtain ⟨-, -, star, -, foreign, -, -, printed, unions⟩ := rule_texts_read_exactly (P := Empty)
  have read : (parse "*?" : Except Error (Rule Empty)) = .ok .wildcard := (star "*?").mpr (.inr rfl)
  refine ⟨read, (printed "*?" .wildcard read).2.trans (if_pos rfl), ?_, ?_⟩
  · exact foreign "String" 'S' (by decide) (by decide)
  · exact unions [.tag .string true, .wildcard] (Nat.le_refl 2)

end Rule

end Multimethod
