import Mathlib.Data.Set.List
import Multimethod.Proofs.Constructions
import Multimethod.Proofs.Leaves
import Multimethod.Proofs.RuleTexts

/-!
What a printed schema tells. Schemas of tags, stars and unions of these are read back from their print by
taking it apart at commas and bars (`reread_display`), up to unions of one member, which accept what the
member accepts. So the print of such a schema settles which calls it accepts:
`printed_schemas_tell_calls`.
-/
namespace Multimethod

/-! ### Taking texts apart -/

/-- The parts of a text between the places where a separator stands. -/
def pieces (separator text : String) : List String :=
  (text.split separator).toList.map (·.copy)

section

open String.Slice.Pattern String.Slice.Pattern.Model

variable {separator : String} {mark : Char} {others : List Char} {s : String.Slice}

private theorem slice_between {start stop : s.Pos} {before part after : String}
    (begins : start.Splits before (part ++ after)) (ends : stop.Splits (before ++ part) after)
    (ordered : start ≤ stop) : (s.slice start stop ordered).copy = part := by
  obtain ⟨_, same⟩ := String.Slice.copy_slice_eq_iff_splits.mpr ⟨before, after, begins, ends⟩
  exact same

/-- A separator does not begin within a part that lacks its first character. -/
theorem no_separator_within (marked : separator.toList = mark :: others) {start stop : s.Pos}
    {before part after : String} (begins : start.Splits before (part ++ after))
    (ends : stop.Splits (before ++ part) after) (clean : mark ∉ part.toList) (between : s.Pos)
    (reached : start ≤ between) (inside : between < stop) : ¬ MatchesAt separator between := by
  intro found
  obtain ⟨left, right, splits⟩ := ForwardStringSearcher.matchesAt_iff_splits.mp found
  obtain ⟨skipped, rfl, -⟩ := (begins.le_iff_exists_eq_append splits).mp reached
  obtain ⟨ahead, filled, same, starts⟩ := (splits.lt_iff_exists_eq_append ends).mp inside
  have whole : part.toList = skipped.toList ++ ahead.toList := by
    simpa using congrArg String.toList same
  have heads : mark :: (others ++ right.toList) = ahead.toList ++ after.toList := by
    simpa [marked] using congrArg String.toList starts
  refine clean ?_
  cases characters : ahead.toList with
  | nil => exact absurd (String.toList_eq_nil_iff.mp characters) filled
  | cons first rest =>
    rw [characters, List.cons_append] at heads
    obtain ⟨rfl, -⟩ := List.cons.inj heads
    rw [whole, characters]
    simp

/-- From where a part begins, the text is taken apart into that part and those that follow. -/
theorem split_from [StrictPatternModel separator] (marked : separator.toList = mark :: others)
    (part : String) (parts : List String) (clean : ∀ piece ∈ part :: parts, mark ∉ piece.toList)
    {start : s.Pos} {before : String}
    (begins : start.Splits before (separator.intercalate (part :: parts))) :
    (Model.split separator start start (Std.le_refl _)).map (fun piece => piece.toSlice.copy) =
      part :: parts := by
  induction parts generalizing part start before with
  | nil =>
    rw [String.intercalate_singleton] at begins
    have begins : start.Splits before (part ++ "") := by rwa [String.append_empty]
    have ends : s.endPos.Splits (before ++ part) "" :=
      String.Slice.splits_endPos_iff.mpr ⟨by rw [begins.eq_append, String.append_empty], rfl⟩
    rw [split_eq_of_not_matchesAt s.endPos (by simp)
      (no_separator_within marked begins ends (clean part List.mem_cons_self)), split_endPos]
    simpa using slice_between begins ends (by simp)
  | cons next parts ih =>
    rw [String.intercalate_cons_cons, String.append_assoc] at begins
    obtain ⟨first, rest⟩ := List.forall_mem_cons.mp clean
    have whole : s.copy = (before ++ part) ++ (separator ++ separator.intercalate (next :: parts)) := by
      rw [begins.eq_append, String.append_assoc]
    have ends := String.Slice.Pos.splits_ofEqAppend whole
    rw [← String.append_assoc] at whole
    have resumes := String.Slice.Pos.splits_ofEqAppend whole
    have ordered := (begins.le_iff_exists_eq_append ends).mpr ⟨part, rfl, rfl⟩
    have separated := ForwardStringSearcher.isLongestMatchAt_iff_splits.mpr ⟨_, _, ends, resumes⟩
    rw [split_eq_of_not_matchesAt _ ordered (no_separator_within marked begins ends first),
      split_eq_of_isLongestMatchAt separated, List.map_cons, ih next rest resumes,
      String.Slice.toSlice_subslice, slice_between begins ends]

/-- Parts without the first character of the separator are found again in the text that joins them. -/
theorem pieces_intercalate (marked : separator.toList = mark :: others) {parts : List String}
    (some_part : parts ≠ []) (clean : ∀ part ∈ parts, mark ∉ part.toList) :
    pieces separator (separator.intercalate parts) = parts := by
  have filled : separator ≠ "" := by
    rintro rfl
    cases marked
  have := ForwardStringSearcher.strictPatternModel filled
  have := ForwardStringSearcher.lawfulToForwardSearcherModel filled
  obtain ⟨part, rest, rfl⟩ := List.exists_cons_of_ne_nil some_part
  have begins := String.Slice.splits_startPos (separator.intercalate (part :: rest)).toSlice
  rw [String.copy_toSlice] at begins
  rw [pieces, String.split_eq_split_toSlice, String.Slice.toList_split_eq_splitToSubslice,
    toList_splitToSubslice_eq_modelSplit, List.map_map]
  exact split_from marked part rest clean begins

private theorem intercalate_filled {parts : List String} (some_part : parts ≠ [])
    (filled : ∀ part ∈ parts, part ≠ "") : separator.intercalate parts ≠ "" := by
  obtain ⟨part, rest, rfl⟩ := List.exists_cons_of_ne_nil some_part
  have first := filled part List.mem_cons_self
  cases rest with
  | nil => rwa [String.intercalate_singleton]
  | cons next rest => simp [first]

/-- Characters of a text that joins parts are those of the separator and of the parts. -/
theorem mem_intercalate {parts : List String} {c : Char}
    (among : c ∈ (separator.intercalate parts).toList) :
    c ∈ separator.toList ∨ ∃ part ∈ parts, c ∈ part.toList := by
  induction parts with
  | nil => simp at among
  | cons part rest ih =>
    cases rest with
    | nil => exact .inr ⟨part, List.mem_cons_self, by simpa using among⟩
    | cons next rest =>
      rw [String.intercalate_cons_cons, String.toList_append, String.toList_append, List.mem_append,
        List.mem_append] at among
      rcases among with (here | between) | later
      · exact .inr ⟨part, List.mem_cons_self, here⟩
      · exact .inl between
      · refine (ih later).imp_right ?_
        rintro ⟨other, present, inside⟩
        exact ⟨other, List.mem_cons_of_mem _ present, inside⟩

end

variable {P : Type}

/-! ### Rules -/

namespace Rule

/-- A rule in order that is made of tags and stars only. -/
def Worded (rule : Rule P) : Prop :=
  rule.Flat ∧ ∀ leaf ∈ rule.leaves, leaf.Primitive

/-- A rule in order has a leaf, and the bars in its print stand between the leaves. -/
theorem leaves_of_flat {rule : Rule P} (flat : rule.Flat) :
    rule.leaves ≠ [] ∧ rule.display = " | ".intercalate (rule.leaves.map display) := by
  by_cases plain : rule.isUnion = false
  · rw [leaves_of_plain plain]
    exact ⟨List.cons_ne_nil _ _, by simp⟩
  · cases rule with
    | union members =>
      rw [leaves_union_of_plain flat.2, display, displayEach_eq_map]
      exact ⟨flat.1, rfl⟩
    | _ => exact absurd rfl plain

/-- Only letters, stars and question marks stand in the print of a tag or a star. -/
theorem Primitive.clean {rule : Rule P} (primitive : rule.Primitive) {c : Char}
    (foreign : Word.letter c = false) (unmarked : c ≠ '?') : c ∉ rule.display.toList := by
  rw [← primitive.word_text]
  intro among
  rcases Word.mem_text among with letter | mark
  · exact absurd letter (Bool.eq_false_iff.mp foreign)
  · exact unmarked mark

private theorem rules_of_words {rules : List (Rule P)} (primitive : ∀ rule ∈ rules, rule.Primitive) :
    (rules.map word).map Word.rule = rules := by
  have each : ∀ rule ∈ rules, (Word.rule ∘ word) rule = id rule := fun rule among =>
    (primitive rule among).word_rule
  rw [List.map_map, List.map_congr_left each, List.map_id]

/-- The leaves of a rule are found between the bars. -/
theorem pieces_display {rule : Rule P} (worded : rule.Worded) :
    pieces " | " rule.display = rule.leaves.map display := by
  obtain ⟨flat, primitive⟩ := worded
  obtain ⟨some_leaf, printed⟩ := leaves_of_flat flat
  rw [printed]
  refine pieces_intercalate rfl (by simpa using some_leaf) ?_
  intro part among
  obtain ⟨leaf, present, rfl⟩ := List.mem_map.mp among
  exact (primitive leaf present).clean (by decide) (by decide)

private theorem Worded.comma_free {rule : Rule P} (worded : rule.Worded) : ',' ∉ rule.display.toList := by
  obtain ⟨flat, primitive⟩ := worded
  rw [(leaves_of_flat flat).2]
  intro among
  rcases mem_intercalate among with bar | ⟨part, listed, inside⟩
  · exact absurd bar (by decide)
  · obtain ⟨leaf, present, rfl⟩ := List.mem_map.mp listed
    exact (primitive leaf present).clean (by decide) (by decide) inside

private theorem Worded.display_filled {rule : Rule P} (worded : rule.Worded) : rule.display ≠ "" := by
  obtain ⟨flat, primitive⟩ := worded
  obtain ⟨some_leaf, printed⟩ := leaves_of_flat flat
  rw [printed]
  refine intercalate_filled (by simpa using some_leaf) fun part listed => ?_
  obtain ⟨leaf, present, rfl⟩ := List.mem_map.mp listed
  rw [← (primitive leaf present).word_text]
  exact leaf.word.text_filled

/-- The texts between the bars are read to the union of the leaves. -/
theorem toRule_pieces {rule : Rule P} (worded : rule.Worded) :
    (Source.union ((pieces " | " rule.display).map .text)).toRule = .ok (.union rule.leaves) := by
  obtain ⟨flat, primitive⟩ := id worded
  have texts : rule.leaves.map display = (rule.leaves.map word).map Word.text := by
    rw [List.map_map]
    exact List.map_congr_left fun leaf present => (primitive leaf present).word_text.symm
  have some_word : rule.leaves.map word ≠ [] := by simpa using (leaves_of_flat flat).1
  rw [pieces_display worded, texts]
  calc (Written.list ((rule.leaves.map word).map Word.text)).source.toRule
    _ = ofJson (Spelling.union (rule.leaves.map word) some_word).document := by
      rw [← ofJson_written, Written.document, List.map_map]
      rfl
    _ = .ok (.union rule.leaves) := by rw [ofJson_document, Spelling.rule, rules_of_words primitive]

/-- Documents can hold exactly such rules. -/
theorem worded_iff (rule : Rule P) : rule.Worded ↔ ∃ spelling : Spelling, rule = spelling.rule := by
  constructor
  · rintro ⟨flat, primitive⟩
    cases rule with
    | union members =>
      rw [leaves_union_of_plain flat.2] at primitive
      refine ⟨.union (members.map word) (by simpa using flat.1), ?_⟩
      rw [Spelling.rule, rules_of_words primitive]
    | _ => exact ⟨.single (word _), (primitive _ List.mem_cons_self).word_rule.symm⟩
  · rintro ⟨spelling, rfl⟩
    refine ⟨Schema.spelling_flat spelling, ?_⟩
    cases spelling with
    | single word =>
      rw [Spelling.rule, leaves_of_plain (word_flat word)]
      exact List.forall_mem_singleton.mpr (primitive_word word)
    | union words some_word =>
      rw [Spelling.rule, leaves_union_of_plain (words_flat words)]
      exact List.forall_mem_map.mpr fun word _ => primitive_word word

end Rule

/-! ### Schemas -/

namespace Schema

open Rule (Source)

/-- All rules of the schema are made of tags and stars only. -/
def Worded (schema : Schema P) : Prop :=
  ∀ rule ∈ schema.rules, rule.Worded

/-- The schema that a printed one stands for: between the parentheses, rules are taken apart at commas, and
their members at bars. -/
def reread (text : String) : Except Error (Schema P) :=
  let inside := String.ofList (text.toList.drop 1).dropLast
  if inside = "" then .ok empty
  else ofSources ((pieces ", " inside).map fun rule => .union ((pieces " | " rule).map .text))

/-- What is read from the print of a schema has for each rule the union of its leaves. -/
theorem reread_display {schema : Schema P} (worded : schema.Worded) :
    reread schema.display = .ok ⟨schema.rules.map fun rule => .union rule.leaves⟩ := by
  have inside : String.ofList (schema.display.toList.drop 1).dropLast =
      ", ".intercalate (schema.rules.map Rule.display) := by
    apply String.toList_injective
    simp [display]
  rw [reread, inside]
  by_cases none_at_all : schema.rules = []
  · rw [none_at_all]
    rfl
  · have some_rule : schema.rules.map Rule.display ≠ [] := by simpa using none_at_all
    have filled : ", ".intercalate (schema.rules.map Rule.display) ≠ "" :=
      intercalate_filled some_rule
        (List.forall_mem_map.mpr fun rule among => (worded rule among).display_filled)
    have apart : pieces ", " (", ".intercalate (schema.rules.map Rule.display)) =
        schema.rules.map Rule.display :=
      pieces_intercalate rfl some_rule
        (List.forall_mem_map.mpr fun rule among => (worded rule among).comma_free)
    rw [if_neg filled, apart, List.map_map, ofSources_ok_iff, collect_ok_iff,
      List.forall₂_map_left_iff, List.forall₂_map_right_iff, List.forall₂_same]
    exact fun rule among => Rule.toRule_pieces (worded rule among)

/-- Documents make exactly the schemas of such rules. -/
theorem worded_iff_of_documents (schema : Schema P) :
    schema.Worded ↔ ∃ documents, ofJsonRules documents = .ok schema := by
  simp only [ofJsonRules_ok_iff, Worded, Rule.worded_iff]
  constructor
  · intro spelled
    have ranged : schema.rules ∈ Set.range (List.map (Spelling.rule (P := P))) := by
      rw [Set.range_list_map]
      exact fun rule among => (spelled rule among).imp fun _ same => same.symm
    obtain ⟨spellings, same⟩ := ranged
    exact ⟨_, spellings, rfl, congrArg Schema.mk same.symm⟩
  · rintro ⟨_, spellings, -, rfl⟩ rule among
    obtain ⟨spelling, -, rfl⟩ := List.mem_map.mp among
    exact ⟨spelling, rfl⟩

/-- Rules can be replaced by others that accept the same. -/
theorem accepts_map_rules {m : Type → Type} [Monad m] (test : P → Value → m Bool)
    (replace : Rule P → Rule P)
    (same : ∀ rule value, (replace rule).accepts test value = rule.accepts test value)
    (schema : Schema P) (args : List Value) :
    accepts test ⟨schema.rules.map replace⟩ args = schema.accepts test args := by
  have each : ∀ rules args, eachAccepts test (rules.map replace) args = eachAccepts test rules args := by
    intro rules
    induction rules with
    | nil => exact fun _ => rfl
    | cons rule rules ih =>
      intro args
      simp only [List.map_cons, eachAccepts, same, ih]
  have fits : Fits (⟨schema.rules.map replace⟩ : Schema P) args ↔ schema.Fits args := by
    simp only [Fits, length, List.length_map]
  simp only [accepts_eq_each, fits, each]

/-- The print of a schema is read to one that has as many rules and accepts the same calls. -/
theorem reread_accepts {schema : Schema P} (worded : schema.Worded) :
    ∃ again : Schema P, reread schema.display = .ok again ∧ again.length = schema.length ∧
      ∀ {m : Type → Type} [Monad m] [LawfulMonad m] (test : P → Value → m Bool) (args : List Value),
        again.accepts test args = schema.accepts test args := by
  refine ⟨_, reread_display worded, List.length_map _, fun test args => ?_⟩
  exact accepts_map_rules test _ (fun rule value => Rule.accepts_union_leaves test value rule) schema args

end Schema

/-- Documents can express exactly the schemas of tags, stars and unions of these. Two such schemas of one
print have as many rules as each other and accept the same calls, and what is read from the print of one, by
taking it apart at commas and bars, is a schema that accepts the same calls. -/
theorem printed_schemas_tell_calls :
    (∀ schema : Schema P, schema.Worded ↔ ∃ documents, Schema.ofJsonRules documents = .ok schema) ∧
    (∀ schema other : Schema P, schema.Worded → other.Worded → schema.display = other.display →
      schema.length = other.length ∧
      ∀ {m : Type → Type} [Monad m] [LawfulMonad m] (test : P → Value → m Bool) (args : List Value),
        schema.accepts test args = other.accepts test args) ∧
    ∀ schema : Schema P, schema.Worded → ∃ again : Schema P,
      Schema.reread schema.display = .ok again ∧ again.length = schema.length ∧
      ∀ {m : Type → Type} [Monad m] [LawfulMonad m] (test : P → Value → m Bool) (args : List Value),
        again.accepts test args = schema.accepts test args := by
  refine ⟨Schema.worded_iff_of_documents, fun schema other worded otherWorded same => ?_,
    fun _ => Schema.reread_accepts⟩
  obtain ⟨again, read, length, accepts⟩ := Schema.reread_accepts worded
  obtain ⟨otherAgain, otherRead, otherLength, otherAccepts⟩ := Schema.reread_accepts otherWorded
  rw [same, otherRead] at read
  cases read
  exact ⟨length.symm.trans otherLength, fun test args =>
    (accepts test args).symm.trans (otherAccepts test args)⟩

/-- A rule and the union of that rule alone are printed alike, and accept alike. -/
theorem union_of_one_tells_the_same :
    let bare : Schema Empty := ⟨[.tag .string true, .wildcard]⟩
    let wrapped : Schema Empty := ⟨[.union [.tag .string true], .wildcard]⟩
    bare.Worded ∧ wrapped.Worded ∧ bare.display = wrapped.display ∧
      bare.length = wrapped.length ∧
      (∀ (test : Empty → Value → Id Bool) args, bare.accepts test args = wrapped.accepts test args) ∧
      ∃ again : Schema Empty, Schema.reread wrapped.display = .ok again := by
  intro bare wrapped
  obtain ⟨documents, alike, back⟩ := printed_schemas_tell_calls (P := Empty)
  have bareWorded : bare.Worded := (documents bare).mpr ⟨[.string "string?", .string "*"], rfl⟩
  have wrappedWorded : wrapped.Worded :=
    (documents wrapped).mpr ⟨[.array [.string "string?"], .string "*"], rfl⟩
  have same : bare.display = wrapped.display := by
    simp [bare, wrapped, Schema.display, Rule.display, Rule.displayEach]
  obtain ⟨lengths, accepts⟩ := alike bare wrapped bareWorded wrappedWorded same
  obtain ⟨again, read, -⟩ := back wrapped wrappedWorded
  exact ⟨bareWorded, wrappedWorded, same, lengths, fun test args => accepts test args, again, read⟩

end Multimethod
