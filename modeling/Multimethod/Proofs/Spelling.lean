import Mathlib.Data.List.Forall2
import Multimethod.Proofs.Flatness

/-!
How rules are written down. A word is the text of a single rule; a spelling is what a document says of
a rule, one word or a list of words. The documents of spellings are read to the rules of those
spellings, and no others are read: of any other the first fault is reported (`ofJson_ok_iff`,
`ofJson_error_iff`, and for whole schemas `ofJsonRules_ok_iff`, `ofJsonRules_error_iff`).
-/
namespace Multimethod

variable {P : Type}

/-! ### Going through a list -/

section

variable {α β γ : Type}

/-- A walk over a list that collects results ends well if all steps of it do. -/
theorem collect_ok_iff (step : α → Except Error β) (items : List α) (results : List β) :
    items.mapM step = .ok results ↔
      List.Forall₂ (fun item result => step item = .ok result) items results := by
  induction items generalizing results with
  | nil => cases results <;> simp [pure, Except.pure]
  | cons item rest ih =>
    rw [List.mapM_cons]
    cases taken : step item with
    | error reason => cases results <;> simp [bind, Except.bind, taken]
    | ok result =>
      cases others : rest.mapM step <;> cases results <;>
        simp [bind, Except.bind, pure, Except.pure, ← ih, taken, others]

/-- Whether it ends well does not depend on what is collected. -/
theorem collect_eq_walk (step : α → Except Error β) (items : List α) :
    (items.mapM step).map (fun _ => ()) = items.forM fun item => (step item).map fun _ => () := by
  induction items with
  | nil => rfl
  | cons item rest ih =>
    rw [List.mapM_cons, Schema.walk_cons, ← ih]
    cases step item <;> cases rest.mapM step <;> rfl

/-- Otherwise it ends with the first step that does not. -/
theorem collect_error_iff (step : α → Except Error β) (items : List α) (error : Error) :
    items.mapM step = .error error ↔ ∃ before item after, items = before ++ item :: after ∧
      (∀ earlier ∈ before, ∃ result, step earlier = .ok result) ∧ step item = .error error := by
  have passes : ∀ item, (step item).map (fun _ => ()) = .ok () ↔ ∃ result, step item = .ok result := by
    intro item
    cases step item <;> simp [Except.map]
  have stops : ∀ {γ : Type} (taken : Except Error γ),
      taken.map (fun _ => ()) = .error error ↔ taken = .error error := by
    intro γ taken
    cases taken <;> simp [Except.map]
  have walk := Schema.walk_error_iff (fun item => (step item).map fun _ => ()) items error
  simp only [← collect_eq_walk, passes, stops] at walk
  exact walk

/-- Two lists whose items are pairwise two sides of one thing are the two sides of one list. -/
theorem two_sides_iff (left : γ → α) (right : γ → β) (lefts : List α) (rights : List β) :
    List.Forall₂ (fun a b => ∃ c, a = left c ∧ b = right c) lefts rights ↔
      ∃ whole : List γ, lefts = whole.map left ∧ rights = whole.map right := by
  constructor
  · intro pairs
    induction pairs with
    | nil => exact ⟨[], rfl, rfl⟩
    | cons pair _ ih =>
      obtain ⟨c, rfl, rfl⟩ := pair
      obtain ⟨whole, rfl, rfl⟩ := ih
      exact ⟨c :: whole, rfl, rfl⟩
  · rintro ⟨whole, rfl, rfl⟩
    rw [List.forall₂_map_left_iff, List.forall₂_map_right_iff, List.forall₂_same]
    exact fun c _ => ⟨c, rfl, rfl⟩

end

/-! ### Words -/

/-- The text of a single rule: a star or the name of a tag, perhaps with a question mark behind. -/
structure Word where
  /-- No tag for the star. -/
  tag? : Option Tag
  nullable : Bool

namespace Word

def name (word : Word) : String :=
  word.tag?.elim "*" Tag.name

def text (word : Word) : String :=
  if word.nullable then word.name ++ "?" else word.name

/-- The rule that a word stands for. A star accepts null anyway. -/
def rule (word : Word) : Rule P :=
  word.tag?.elim .wildcard fun tag => .tag tag word.nullable

end Word

private theorem Tag.ofName_name (tag : Tag) : Tag.ofName? tag.name = some tag := by
  cases tag <;> rfl

private theorem Tag.name_of_ofName {name : String} {tag : Tag} (named : Tag.ofName? name = some tag) :
    tag.name = name :=
  eq_of_beq (List.find?_some (p := fun tag : Tag => tag.name == name) named)

namespace Rule

theorem split_marked (name : String) : splitNullable (name ++ "?") = (name, true) := by
  simp [splitNullable]

/-- A text that is split in two is put together again by the question mark. -/
theorem split_sound (text : String) : text =
    if (splitNullable text).2 then (splitNullable text).1 ++ "?" else (splitNullable text).1 := by
  unfold splitNullable
  split
  · rename_i last
    have whole : text.toList.dropLast ++ ['?'] = text.toList :=
      List.dropLast_append_getLast? _ last
    have same : String.ofList text.toList.dropLast ++ "?" = text := by
      apply String.toList_injective
      rw [String.toList_append, String.toList_ofList]
      exact whole
    exact same.symm
  · rfl

theorem split_word (word : Word) : splitNullable word.text = (word.name, word.nullable) := by
  obtain ⟨tag?, nullable⟩ := word
  cases nullable with
  | true => exact split_marked _
  | false =>
    cases tag? with
    | none => rfl
    | some tag => cases tag <;> rfl

theorem parse_text (word : Word) : parse word.text = .ok (word.rule : Rule P) := by
  unfold parse
  rw [split_word]
  obtain ⟨tag?, nullable⟩ := word
  cases tag? with
  | none => rfl
  | some tag =>
    have named : tag.name ≠ "*" := by cases tag <;> decide
    simp only [Word.name, Option.elim, named, ↓reduceIte, tag.ofName_name, Word.rule]

/-- A text that is no word is refused as a whole. -/
theorem parse_other {text : String} (unwritten : ∀ word : Word, text ≠ word.text) :
    (parse text : Except Error (Rule P)) = .error (.invalidRule text) := by
  have put_together := split_sound text
  unfold parse
  generalize splitNullable text = parts at put_together ⊢
  obtain ⟨name, nullable⟩ := parts
  dsimp only at put_together ⊢
  by_cases star : name = "*"
  · subst star
    exact absurd put_together (unwritten ⟨none, nullable⟩)
  · rw [if_neg star]
    cases named : Tag.ofName? name with
    | some tag =>
      rw [← Tag.name_of_ofName named] at put_together
      exact absurd put_together (unwritten ⟨some tag, nullable⟩)
    | none => rfl

/-- Exactly the words are read. -/
theorem parse_ok_iff (text : String) (rule : Rule P) :
    parse text = .ok rule ↔ ∃ word : Word, text = word.text ∧ rule = word.rule := by
  constructor
  · intro read
    by_cases written : ∃ word : Word, text = word.text
    · obtain ⟨word, rfl⟩ := written
      rw [parse_text] at read
      cases read
      exact ⟨word, rfl, rfl⟩
    · rw [parse_other fun word same => written ⟨word, same⟩] at read
      cases read
  · rintro ⟨word, rfl, rfl⟩
    exact parse_text word

theorem parse_error_iff (text : String) (error : Error) :
    (parse text : Except Error (Rule P)) = .error error ↔
      (∀ word : Word, text ≠ word.text) ∧ error = .invalidRule text := by
  constructor
  · intro refused
    have unwritten : ∀ word : Word, text ≠ word.text := by
      rintro word rfl
      rw [parse_text] at refused
      cases refused
    rw [parse_other unwritten] at refused
    cases refused
    exact ⟨unwritten, rfl⟩
  · rintro ⟨unwritten, rfl⟩
    exact parse_other unwritten

end Rule

/-! ### Documents -/

/-- What a document says of a rule: one word, or a list of words for a union. -/
inductive Spelling where
  | single (word : Word)
  | union (words : List Word) (some_word : words ≠ [])

namespace Spelling

def document : Spelling → Json
  | .single word => .string word.text
  | .union words _ => .array (words.map fun word => .string word.text)

def rule : Spelling → Rule P
  | .single word => word.rule
  | .union words _ => .union (words.map Word.rule)

end Spelling

/-- What a document is reported for where only a word will do. -/
inductive NoWord : Json → Error → Prop where
  | unknown {text : String} (unwritten : ∀ word : Word, text ≠ word.text) :
      NoWord (.string text) (.invalidRule text)
  | no_text {document : Json} (other : ∀ text, document ≠ .string text) :
      NoWord document (.invalidRule document.compact)

/-- What a document is reported for that is no spelling of a rule. In a list the first item counts that
is no word; an array is none, so unions are never nested. -/
inductive NoSpelling : Json → Error → Prop where
  | single {document : Json} {error : Error} (no_list : ∀ items, document ≠ .array items)
      (fault : NoWord document error) : NoSpelling document error
  | empty : NoSpelling (.array []) .emptyUnion
  | member {before after : List Json} {member : Json} {error : Error}
      (earlier : ∀ other ∈ before, ∃ word : Word, other = .string word.text)
      (fault : NoWord member error) : NoSpelling (.array (before ++ member :: after)) error

namespace Rule

private theorem ofJsonText_ok_iff (document : Json) (rule : Rule P) :
    ofJsonText document = .ok rule ↔
      ∃ word : Word, document = .string word.text ∧ rule = word.rule := by
  cases document with
  | string text => simp only [ofJsonText, parse_ok_iff, Json.string.injEq]
  | _ => simp [ofJsonText]

private theorem ofJsonText_error_iff (document : Json) (error : Error) :
    (ofJsonText document : Except Error (Rule P)) = .error error ↔ NoWord document error := by
  constructor
  · intro refused
    cases document with
    | string text =>
      obtain ⟨unwritten, rfl⟩ := (parse_error_iff text error).mp refused
      exact .unknown unwritten
    | _ =>
      cases refused
      exact .no_text fun text => Json.noConfusion
  · intro fault
    cases fault with
    | unknown unwritten => exact parse_other unwritten
    | no_text other =>
      cases document with
      | string text => exact absurd rfl (other text)
      | _ => rfl

theorem word_flat (word : Word) : (word.rule : Rule P).isUnion = false := by
  obtain ⟨tag?, nullable⟩ := word
  cases tag? <;> rfl

theorem words_flat (words : List Word) :
    ∀ member ∈ words.map (Word.rule (P := P)), member.isUnion = false := by
  intro member among
  obtain ⟨word, -, rfl⟩ := List.mem_map.mp among
  exact word_flat word

theorem flat_of_plain {rule : Rule P} (plain : rule.isUnion = false) : rule.Flat := by
  cases rule with
  | union members => cases plain
  | _ => trivial

theorem checked_ok_iff (rule result : Rule P) :
    rule.checked = .ok result ↔ rule.Flat ∧ result = rule := by
  rw [← check_ok_iff]
  unfold checked
  cases rule.check <;> simp [bind, Except.bind, pure, Except.pure, eq_comm]

/-- Rules that are no unions make up a union, if there are any. -/
theorem unionOf_of_plain {rules : List (Rule P)} (plain : ∀ rule ∈ rules, rule.isUnion = false) :
    unionOf (rules.map .ok) = if rules = [] then .error .emptyUnion else .ok (.union rules) := by
  have members : (rules.map Except.ok).mapM
      (fun member : Except Error (Rule P) => member.bind checked) = .ok rules := by
    rw [collect_ok_iff, List.forall₂_map_left_iff, List.forall₂_same]
    exact fun rule among => (checked_ok_iff rule rule).mpr ⟨flat_of_plain (plain rule among), rfl⟩
  unfold unionOf
  rw [members]
  change checked (.union rules) = _
  split
  · rename_i none_at_all
    subst none_at_all
    rfl
  · rename_i some_rule
    exact (checked_ok_iff _ _).mpr ⟨⟨some_rule, plain⟩, rfl⟩

private theorem list_ok_iff (items : List Json) (rules : List (Rule P)) :
    items.mapM ofJsonText = .ok rules ↔ ∃ words : List Word,
      items = words.map (fun word => .string word.text) ∧ rules = words.map Word.rule := by
  simp only [collect_ok_iff, ofJsonText_ok_iff]
  exact two_sides_iff (fun word : Word => Json.string word.text) Word.rule items rules

private theorem list_error_iff (items : List Json) (error : Error) :
    items.mapM (ofJsonText (P := P)) = .error error ↔ ∃ before member after,
      items = before ++ member :: after ∧
      (∀ other ∈ before, ∃ word : Word, other = .string word.text) ∧ NoWord member error := by
  have reads : ∀ document, (∃ rule : Rule P, ofJsonText document = .ok rule) ↔
      ∃ word : Word, document = .string word.text := by
    intro document
    simp only [ofJsonText_ok_iff]
    exact ⟨fun ⟨_, word, written, _⟩ => ⟨word, written⟩, fun ⟨word, written⟩ => ⟨_, word, written, rfl⟩⟩
  simp only [collect_error_iff, ofJsonText_error_iff, reads]

/-- A list is read item by item, and made a union if it has any. -/
theorem ofJson_list (items : List Json) :
    (ofJson (.array items) : Except Error (Rule P)) = (items.mapM ofJsonText).bind fun rules =>
      if rules = [] then .error .emptyUnion else .ok (.union rules) := by
  change ((items.mapM ofJsonText).bind fun rules => unionOf (rules.map .ok)) = _
  cases read : items.mapM (ofJsonText (P := P)) with
  | error error => rfl
  | ok rules =>
    obtain ⟨words, -, rfl⟩ := (list_ok_iff items rules).mp read
    exact unionOf_of_plain (words_flat words)

private theorem ofJson_single {document : Json} (no_list : ∀ items, document ≠ .array items) :
    (ofJson document : Except Error (Rule P)) = ofJsonText document := by
  cases document with
  | array items => exact absurd rfl (no_list items)
  | _ => rfl

/-- The document of a spelling is read to its rule. -/
theorem ofJson_document (spelling : Spelling) :
    ofJson spelling.document = .ok (spelling.rule : Rule P) := by
  cases spelling with
  | single word => exact parse_text word
  | union words some_word =>
    have read := (list_ok_iff (P := P) _ _).mpr ⟨words, rfl, rfl⟩
    have filled : words.map (Word.rule (P := P)) ≠ [] := fun none_at_all =>
      some_word (List.map_eq_nil_iff.mp none_at_all)
    rw [Spelling.document, ofJson_list, read]
    exact if_neg filled

/-- No other documents are read. -/
theorem spelling_of_read {document : Json} {rule : Rule P} (read : ofJson document = .ok rule) :
    ∃ spelling : Spelling, document = spelling.document := by
  by_cases list : ∃ items, document = .array items
  · obtain ⟨items, rfl⟩ := list
    rw [ofJson_list] at read
    obtain ⟨rules, members, made⟩ := Schema.after_ok read
    obtain ⟨words, rfl, rfl⟩ := (list_ok_iff items rules).mp members
    have some_word : words ≠ [] := by
      rintro rfl
      cases made
    exact ⟨.union words some_word, rfl⟩
  · rw [ofJson_single fun items same => list ⟨items, same⟩] at read
    obtain ⟨word, written, -⟩ := (ofJsonText_ok_iff document rule).mp read
    exact ⟨.single word, written⟩

private theorem ofJson_ok_iff (document : Json) (rule : Rule P) :
    ofJson document = .ok rule ↔
      ∃ spelling : Spelling, document = spelling.document ∧ rule = spelling.rule := by
  constructor
  · intro read
    obtain ⟨spelling, rfl⟩ := spelling_of_read read
    rw [ofJson_document] at read
    cases read
    exact ⟨spelling, rfl, rfl⟩
  · rintro ⟨spelling, rfl, rfl⟩
    exact ofJson_document spelling

private theorem ofJson_error_iff (document : Json) (error : Error) :
    (ofJson document : Except Error (Rule P)) = .error error ↔ NoSpelling document error := by
  constructor
  · intro refused
    by_cases list : ∃ items, document = .array items
    · obtain ⟨items, rfl⟩ := list
      rw [ofJson_list] at refused
      cases read : items.mapM (ofJsonText (P := P)) with
      | error reason =>
        rw [read] at refused
        cases refused
        obtain ⟨before, member, after, rfl, earlier, fault⟩ := (list_error_iff items error).mp read
        exact .member earlier fault
      | ok rules =>
        obtain ⟨words, rfl, rfl⟩ := (list_ok_iff items rules).mp read
        rw [read] at refused
        cases words with
        | nil =>
          cases refused
          exact .empty
        | cons word rest => cases refused
    · have no_list : ∀ items, document ≠ .array items := fun items same => list ⟨items, same⟩
      rw [ofJson_single no_list] at refused
      exact .single no_list ((ofJsonText_error_iff document error).mp refused)
  · intro fault
    cases fault with
    | single no_list fault =>
      rw [ofJson_single no_list]
      exact (ofJsonText_error_iff document error).mpr fault
    | empty => rfl
    | @member before after member _ earlier fault =>
      have refused := (list_error_iff (P := P) _ error).mpr ⟨before, member, after, rfl, earlier, fault⟩
      rw [ofJson_list, refused]
      rfl

/-- No document that spells a rule is reported. -/
theorem unspelled {document : Json} {error : Error} (fault : NoSpelling document error) :
    ¬ ∃ spelling : Spelling, document = spelling.document := by
  rintro ⟨spelling, rfl⟩
  have refused := (ofJson_error_iff (P := Empty) _ error).mpr fault
  rw [ofJson_document] at refused
  cases refused

end Rule

/-! ### Schemas -/

namespace Schema

theorem spelling_flat (spelling : Spelling) : (spelling.rule : Rule P).Flat := by
  cases spelling with
  | single word => exact Rule.flat_of_plain (Rule.word_flat word)
  | union words some_word =>
    exact ⟨fun none_at_all => some_word (List.map_eq_nil_iff.mp none_at_all), Rule.words_flat words⟩

/-- A list of documents makes a schema exactly if all of them are documents of spellings. -/
theorem ofJsonRules_ok_iff (documents : List Json) (schema : Schema P) :
    ofJsonRules documents = .ok schema ↔ ∃ spellings : List Spelling,
      documents = spellings.map Spelling.document ∧ schema = ⟨spellings.map Spelling.rule⟩ := by
  have read : ∀ rules : List (Rule P), documents.mapM Rule.ofJson = .ok rules ↔
      ∃ spellings : List Spelling,
        documents = spellings.map Spelling.document ∧ rules = spellings.map Spelling.rule := by
    intro rules
    simp only [collect_ok_iff, Rule.ofJson_ok_iff]
    exact two_sides_iff Spelling.document Spelling.rule documents rules
  constructor
  · intro made
    obtain ⟨rules, members, made⟩ := after_ok made
    obtain ⟨spellings, rfl, rfl⟩ := (read rules).mp members
    exact ⟨spellings, rfl, ((ofRules_ok_iff _ schema).mp made).2⟩
  · rintro ⟨spellings, rfl, rfl⟩
    have flat : ∀ rule ∈ spellings.map (Spelling.rule (P := P)), rule.Flat := by
      intro rule among
      obtain ⟨spelling, -, rfl⟩ := List.mem_map.mp among
      exact spelling_flat spelling
    unfold ofJsonRules
    rw [(read _).mpr ⟨spellings, rfl, rfl⟩]
    exact (ofRules_ok_iff _ _).mpr ⟨flat, rfl⟩

/-- Otherwise the first of them that is none is reported. -/
theorem ofJsonRules_error_iff (documents : List Json) (error : Error) :
    (ofJsonRules documents : Except Error (Schema P)) = .error error ↔
      ∃ before document after, documents = before ++ document :: after ∧
        (∀ earlier ∈ before, ∃ spelling : Spelling, earlier = spelling.document) ∧
        NoSpelling document error := by
  have reads : ∀ document, (∃ rule : Rule P, Rule.ofJson document = .ok rule) ↔
      ∃ spelling : Spelling, document = spelling.document := fun document =>
    ⟨fun ⟨_, read⟩ => Rule.spelling_of_read read,
      fun ⟨spelling, written⟩ => ⟨spelling.rule, written ▸ Rule.ofJson_document spelling⟩⟩
  have stops := collect_error_iff (Rule.ofJson (P := P)) documents error
  simp only [Rule.ofJson_error_iff, reads] at stops
  rw [← stops]
  cases read : documents.mapM (Rule.ofJson (P := P)) with
  | error reason =>
    unfold ofJsonRules
    rw [read]
    exact ⟨fun same => by cases same; rfl, fun same => by cases same; rfl⟩
  | ok rules =>
    -- Rules that have been read are flat, so nothing is left to be refused.
    have spelled := (collect_ok_iff _ _ _).mp read
    simp only [Rule.ofJson_ok_iff] at spelled
    obtain ⟨spellings, rfl, rfl⟩ :=
      (two_sides_iff Spelling.document Spelling.rule documents rules).mp spelled
    rw [(ofJsonRules_ok_iff _ _).mpr ⟨spellings, rfl, rfl⟩]
    exact ⟨fun same => (nomatch same), fun same => (nomatch same)⟩

end Schema

end Multimethod
