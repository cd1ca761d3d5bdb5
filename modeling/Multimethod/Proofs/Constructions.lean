import Multimethod.Proofs.Building

/-!
The ways to make a schema agree. What is written as texts and lists of texts comes to the same rules, or
is refused for the same reason, whether a program writes it, hands on the rules that it stands for, writes
a document or puts it into a definition. Which schemas are made does not depend on when rules that are
there already are checked; only where one of them offends and a later source stands for no rule, it
decides which of the two faults is reported. `schemas_made_alike` puts this together.
-/
namespace Multimethod

variable {P : Type}

namespace Rule

/-! ### Checked once for all -/

theorem checked_of_flat {rule : Rule P} (flat : rule.Flat) : rule.checked = .ok rule :=
  (checked_ok_iff rule rule).mpr ⟨flat, rfl⟩

private theorem flat_of_checked {rule result : Rule P} (made : rule.checked = .ok result) : result.Flat := by
  obtain ⟨flat, rfl⟩ := (checked_ok_iff rule result).mp made
  exact flat

theorem checked_error_iff (rule : Rule P) (error : Error) :
    rule.checked = .error error ↔ rule.Offends error := by
  rw [← check_error_iff]
  unfold checked
  cases rule.check <;> simp [bind, Except.bind, pure, Except.pure]

theorem result_checked_ok_iff (result : Except Error (Rule P)) (rule : Rule P) :
    result.bind checked = .ok rule ↔ result = .ok rule ∧ rule.Flat := by
  cases result with
  | error reason => simp [Except.bind]
  | ok given =>
    simp only [Except.bind, checked_ok_iff, Except.ok.injEq]
    constructor
    · rintro ⟨flat, rfl⟩
      exact ⟨rfl, flat⟩
    · rintro ⟨rfl, flat⟩
      exact ⟨flat, rfl⟩

/-- What is flat wherever it is a rule stays as it is when it is checked. -/
theorem recheck {result : Except Error (Rule P)} (flat : ∀ rule, result = .ok rule → rule.Flat) :
    result.bind checked = result := by
  cases result with
  | error error => rfl
  | ok rule => exact checked_of_flat (flat rule rfl)

private theorem flat_of_parse {text : String} {rule : Rule P} (made : parse text = .ok rule) : rule.Flat := by
  obtain ⟨word, -, rfl⟩ := (parse_ok_iff text rule).mp made
  exact flat_of_plain (word_flat word)

theorem flat_of_unionOf {members : List (Except Error (Rule P))} {rule : Rule P}
    (made : unionOf members = .ok rule) : rule.Flat := by
  obtain ⟨rules, -, made⟩ := Schema.after_ok made
  exact flat_of_checked made

/-- Members that are flat wherever they are rules are collected as they are. -/
theorem unionOf_of_flat {members : List (Except Error (Rule P))}
    (flat : ∀ member ∈ members, ∀ rule, member = .ok rule → rule.Flat) :
    unionOf members = (members.mapM id).bind fun rules => checked (.union rules) := by
  have unchanged : members.mapM (fun member => member.bind checked) = members.mapM id := by
    induction members with
    | nil => rfl
    | cons member rest ih =>
      obtain ⟨first, others⟩ := List.forall_mem_cons.mp flat
      rw [List.mapM_cons, List.mapM_cons, recheck first, ih others]
      rfl
  unfold unionOf
  rw [unchanged]
  rfl

/-- A union can be made of rules that have been collected before. -/
theorem unionOf_collected {members : List (Except Error (Rule P))}
    (flat : ∀ member ∈ members, ∀ rule, member = .ok rule → rule.Flat) :
    unionOf members = (members.mapM id).bind fun rules => unionOf (rules.map .ok) := by
  cases collected : members.mapM id with
  | error error =>
    rw [unionOf_of_flat flat, collected]
    rfl
  | ok rules =>
    have same : members = rules.map .ok := by
      rw [← List.forall₂_eq_eq_eq, List.forall₂_map_right_iff]
      exact (collect_ok_iff id members rules).mp collected
    rw [same]
    rfl

/-! ### Sources -/

/-- The rule that a source stands for, except that one which is there already is taken as it is. -/
def Source.unchecked : Source P → Except Error (Rule P)
  | .rule r => .ok r
  | .result r => r
  | source => source.toRule

theorem flat_of_source {source : Source P} {rule : Rule P} (made : source.toRule = .ok rule) :
    rule.Flat := by
  cases source with
  | text s => exact flat_of_parse (by rwa [Source.toRule] at made)
  | rule r => exact flat_of_checked (by rwa [Source.toRule] at made)
  | result r =>
    rw [Source.toRule] at made
    obtain ⟨given, -, made⟩ := Schema.after_ok made
    exact flat_of_checked made
  | tag t => exact flat_of_plain (by rw [Source.toRule] at made; cases made; rfl)
  | cls c => exact flat_of_plain (by rw [Source.toRule] at made; cases made; rfl)
  | predicate p => exact flat_of_plain (by rw [Source.toRule] at made; cases made; rfl)
  | union members => exact flat_of_unionOf (by rwa [Source.toRule] at made)

/-- What a source stands for is the rule that is taken, checked. -/
theorem toRule_eq_checked (source : Source P) : source.toRule = source.unchecked.bind checked := by
  cases source with
  | rule r => rw [Source.toRule, Source.unchecked]; rfl
  | result r => rw [Source.toRule, Source.unchecked]
  | text s => exact (recheck fun _ => flat_of_source).symm
  | tag t => exact (recheck fun _ => flat_of_source).symm
  | cls c => exact (recheck fun _ => flat_of_source).symm
  | predicate p => exact (recheck fun _ => flat_of_source).symm
  | union members => exact (recheck fun _ => flat_of_source).symm

/-- The rule of a source can be handed on in its place. -/
theorem toRule_handed_on (source : Source P) : (Source.result source.toRule).toRule = source.toRule := by
  rw [Source.toRule]
  exact recheck fun _ => flat_of_source

private theorem toRule_error_iff (source : Source P) (error : Error) :
    source.toRule = .error error ↔ source.unchecked = .error error ∨
      ∃ rule, source.unchecked = .ok rule ∧ rule.Offends error := by
  rw [toRule_eq_checked]
  cases source.unchecked with
  | error reason => simp [Except.bind]
  | ok rule => simp [Except.bind, checked_error_iff]

private theorem toRule_ok_iff (source : Source P) (rule : Rule P) :
    source.toRule = .ok rule ↔ source.unchecked = .ok rule ∧ rule.Flat := by
  rw [toRule_eq_checked, result_checked_ok_iff]

/-! ### What is written -/

/-- What is written of a rule: a text, or a list of texts for a union. None of them need be a rule. -/
inductive Written where
  | single (text : String)
  | list (texts : List String)

/-- As a program writes it. -/
def Written.source : Written → Source P
  | .single text => .text text
  | .list texts => .union (texts.map .text)

/-- As a document holds it. -/
def Written.document : Written → Json
  | .single text => .string text
  | .list texts => .array (texts.map .string)

/-- A document is read to the rule that its texts stand for in a program. -/
theorem ofJson_written (written : Written) :
    (ofJson written.document : Except Error (Rule P)) = written.source.toRule := by
  cases written with
  | single text => rw [Written.source, Source.toRule]; rfl
  | list texts =>
    have read : (texts.map Json.string).mapM (ofJsonText (P := P)) = texts.mapM parse := List.mapM_map
    have parsed : Source.toRules (texts.map Source.text) = texts.map (parse (P := P)) := by
      rw [Source.toRules_eq_map, List.map_map]
      exact List.map_congr_left fun text _ => by rw [Function.comp, Source.toRule]
    have flat : ∀ member ∈ texts.map (parse (P := P)), ∀ rule, member = .ok rule → rule.Flat := by
      intro member among rule made
      obtain ⟨text, -, rfl⟩ := List.mem_map.mp among
      exact flat_of_parse made
    calc ofJson (.array (texts.map .string))
      _ = (texts.mapM parse).bind fun rules => unionOf (rules.map .ok) := by rw [← read]; rfl
      _ = ((texts.map parse).mapM id).bind fun rules => unionOf (rules.map .ok) := by
        rw [List.mapM_map]; rfl
      _ = unionOf (Source.toRules (texts.map .text)) := by rw [parsed, unionOf_collected flat]
      _ = (Written.list texts).source.toRule := by rw [Written.source, Source.toRule]

end Rule

namespace Schema

open Rule (Source Written)

private theorem ofResults_map {α : Type} (convert : α → Except Error (Rule P)) (items : List α) :
    ofResults (items.map convert) = (items.mapM convert).bind ofRules := by
  unfold ofResults
  rw [List.mapM_map]
  rfl

private theorem ofSources_eq (sources : List (Source P)) :
    ofSources sources = (sources.mapM Source.toRule).bind ofRules :=
  ofResults_map Source.toRule sources

/-- Documents of what is written come to the schema of the same in a program. -/
theorem ofJson_written (row : List Written) :
    (ofJson (.array (row.map Written.document)) : Except Error (Schema P)) =
      ofSources (row.map Written.source) := by
  have read : (row.map Written.document).mapM (Rule.ofJson (P := P)) =
      (row.map Written.source).mapM Source.toRule := by
    rw [List.mapM_map, List.mapM_map]
    exact congrArg (List.mapM · row) (funext Rule.ofJson_written)
  rw [ofSources_eq, ← read]
  rfl

/-! ### When rules are checked -/

/-- The schema of rules that are checked only when all of them are there. -/
def ofUnchecked (sources : List (Source P)) : Except Error (Schema P) :=
  ofResults (sources.map Source.unchecked)

/-- A rule that is taken as it is offends, and only behind it comes a source that stands for no rule;
nothing before the two is at fault. -/
inductive Overtaken : List (Source P) → Error → Error → Prop where
  | intro {before between after : List (Source P)} {offender failing : Source P} {rule : Rule P}
      {early late : Error} (sound : ∀ source ∈ before, ∃ rule, source.toRule = .ok rule)
      (taken : offender.unchecked = .ok rule) (offends : rule.Offends early)
      (converted : ∀ source ∈ between, ∃ rule, source.unchecked = .ok rule)
      (refused : failing.unchecked = .error late) :
      Overtaken (before ++ offender :: (between ++ failing :: after)) early late

private theorem ofUnchecked_eq (sources : List (Source P)) :
    ofUnchecked sources = (sources.mapM Source.unchecked).bind ofRules :=
  ofResults_map Source.unchecked sources

private theorem collected_of_each {α β : Type} {step : α → Except Error β} {items : List α}
    (each : ∀ item ∈ items, ∃ result, step item = .ok result) :
    ∃ results, items.mapM step = .ok results := by
  cases collected : items.mapM step with
  | ok results => exact ⟨results, rfl⟩
  | error error =>
    obtain ⟨before, item, after, rfl, -, refused⟩ := (collect_error_iff step items error).mp collected
    obtain ⟨result, taken⟩ := each item (by simp)
    rw [taken] at refused
    cases refused

private theorem refused_of_some {α β : Type} {step : α → Except Error β} {items : List α}
    (fails : ¬ ∀ item ∈ items, ∃ result, step item = .ok result) :
    ∃ error, items.mapM step = .error error := by
  cases collected : items.mapM step with
  | error error => exact ⟨error, rfl⟩
  | ok results =>
    refine absurd (fun item among => ?_) fails
    obtain ⟨index, standing⟩ := List.mem_iff_getElem?.mp among
    obtain ⟨result, -, taken⟩ := Definition.partner ((collect_ok_iff _ _ _).mp collected) standing
    exact ⟨result, taken⟩

/-- Sources stand for the rules that are taken, if those are flat. -/
theorem stand_iff_taken (sources : List (Source P)) (rules : List (Rule P)) :
    sources.mapM Source.toRule = .ok rules ↔
      sources.mapM Source.unchecked = .ok rules ∧ ∀ rule ∈ rules, rule.Flat := by
  simp only [collect_ok_iff, Rule.toRule_ok_iff]
  constructor
  · intro pairs
    induction pairs with
    | nil => exact ⟨.nil, fun _ among => absurd among List.not_mem_nil⟩
    | cons pair _ ih => exact ⟨.cons pair.1 ih.1, List.forall_mem_cons.mpr ⟨pair.2, ih.2⟩⟩
  · rintro ⟨pairs, flat⟩
    induction pairs with
    | nil => exact .nil
    | cons pair _ ih =>
      obtain ⟨first, others⟩ := List.forall_mem_cons.mp flat
      exact .cons ⟨pair, first⟩ (ih others)

theorem ofSources_ok_iff (sources : List (Source P)) (schema : Schema P) :
    ofSources sources = .ok schema ↔ sources.mapM Source.toRule = .ok schema.rules := by
  rw [ofSources_eq]
  constructor
  · intro made
    obtain ⟨rules, stand, made⟩ := after_ok made
    obtain ⟨-, rfl⟩ := (ofRules_ok_iff rules schema).mp made
    exact stand
  · intro stand
    rw [stand]
    exact (ofRules_ok_iff _ _).mpr ⟨((stand_iff_taken _ _).mp stand).2, rfl⟩

/-- The rules that sources stand for are flat, so of a schema nothing but a source is ever reported. -/
theorem ofSources_error_iff (sources : List (Source P)) (error : Error) :
    ofSources sources = .error error ↔ sources.mapM Source.toRule = .error error := by
  cases stand : sources.mapM Source.toRule with
  | error reason =>
    rw [ofSources_eq, stand]
    exact ⟨fun same => by cases same; rfl, fun same => by cases same; rfl⟩
  | ok rules =>
    rw [(ofSources_ok_iff sources ⟨rules⟩).mpr stand]
    exact ⟨fun same => (nomatch same), fun same => (nomatch same)⟩

/-- One and the same schema is made whenever the rules are checked. -/
theorem ofUnchecked_ok_iff (sources : List (Source P)) (schema : Schema P) :
    ofUnchecked sources = .ok schema ↔ ofSources sources = .ok schema := by
  rw [ofSources_ok_iff, stand_iff_taken, ofUnchecked_eq]
  constructor
  · intro made
    obtain ⟨rules, taken, made⟩ := after_ok made
    obtain ⟨flat, rfl⟩ := (ofRules_ok_iff rules schema).mp made
    exact ⟨taken, flat⟩
  · rintro ⟨taken, flat⟩
    rw [taken]
    exact (ofRules_ok_iff _ _).mpr ⟨flat, rfl⟩

private theorem ofUnchecked_of_refused {before after : List (Source P)} {failing : Source P} {error : Error}
    (converted : ∀ source ∈ before, ∃ rule, source.unchecked = .ok rule)
    (refused : failing.unchecked = .error error) :
    ofUnchecked (before ++ failing :: after) = .error error := by
  rw [ofUnchecked_eq, (collect_error_iff _ _ error).mpr ⟨before, failing, after, rfl, converted, refused⟩]
  rfl

/-- Where all sources are rules, the first that offends is reported. -/
theorem ofUnchecked_of_offends {before after : List (Source P)} {offender : Source P} {rule : Rule P}
    {error : Error} (sound : ∀ source ∈ before, ∃ rule, source.toRule = .ok rule)
    (taken : offender.unchecked = .ok rule) (offends : rule.Offends error)
    (converted : ∀ source ∈ after, ∃ rule, source.unchecked = .ok rule) :
    ofUnchecked (before ++ offender :: after) = .error error := by
  obtain ⟨earlier, stand⟩ := collected_of_each sound
  obtain ⟨takenEarlier, flat⟩ := (stand_iff_taken before earlier).mp stand
  obtain ⟨later, takenLater⟩ := collected_of_each converted
  have all : (before ++ offender :: after).mapM Source.unchecked = .ok (earlier ++ rule :: later) := by
    rw [List.mapM_append, List.mapM_cons, takenEarlier, taken, takenLater]
    rfl
  rw [ofUnchecked_eq, all]
  exact (ofRules_error_iff _ _).mpr ⟨earlier, rule, later, rfl, flat, offends⟩

/-- Rules that are there already are sources of themselves. -/
theorem ofSources_rules (rules : List (Rule P)) : ofSources (rules.map Source.rule) = ofRules rules := by
  have stands : ∀ rule : Rule P, (Source.rule rule).toRule = rule.checked := fun rule => by
    rw [Source.toRule]
  cases made : ofRules rules with
  | ok schema =>
    obtain ⟨flat, rfl⟩ := (ofRules_ok_iff rules schema).mp made
    rw [ofSources_ok_iff, collect_ok_iff, List.forall₂_map_left_iff, List.forall₂_same]
    exact fun rule among => (stands rule).trans (Rule.checked_of_flat (flat rule among))
  | error error =>
    obtain ⟨before, rule, after, rfl, flat, offends⟩ := (ofRules_error_iff rules error).mp made
    rw [ofSources_error_iff, collect_error_iff]
    refine ⟨before.map Source.rule, .rule rule, after.map Source.rule, by simp, ?_, ?_⟩
    · intro earlier among
      obtain ⟨other, present, rfl⟩ := List.mem_map.mp among
      exact ⟨other, (stands other).trans (Rule.checked_of_flat (flat other present))⟩
    · exact (stands rule).trans ((Rule.checked_error_iff rule error).mpr offends)

private theorem converted_of_sound {sources : List (Source P)}
    (sound : ∀ source ∈ sources, ∃ rule, source.toRule = .ok rule) :
    ∀ source ∈ sources, ∃ rule, source.unchecked = .ok rule := by
  intro source among
  obtain ⟨rule, stands⟩ := sound source among
  exact ⟨rule, ((Rule.toRule_ok_iff source rule).mp stands).1⟩

/-- The fault that comes first is reported where rules are checked one by one, and the later one where they
are checked together. -/
theorem reports_of_overtaken {sources : List (Source P)} {early late : Error}
    (overtaken : Overtaken sources early late) :
    ofSources sources = .error early ∧ ofUnchecked sources = .error late := by
  obtain ⟨sound, taken, offends, converted, refused⟩ := overtaken
  rename_i before between after offender failing rule
  constructor
  · have fault := (Rule.toRule_error_iff offender early).mpr (.inr ⟨rule, taken, offends⟩)
    exact (ofSources_error_iff _ early).mpr
      ((collect_error_iff _ _ early).mpr ⟨before, offender, _, rfl, sound, fault⟩)
  · have allConverted : ∀ source ∈ before ++ offender :: between, ∃ rule, source.unchecked = .ok rule := by
      intro source among
      rcases List.mem_append.mp among with earlier | later
      · exact converted_of_sound sound source earlier
      · rcases List.mem_cons.mp later with rfl | later
        · exact ⟨rule, taken⟩
        · exact converted source later
    have late : ofUnchecked ((before ++ offender :: between) ++ failing :: after) = .error late :=
      ofUnchecked_of_refused allConverted refused
    simpa using late

/-- What is reported depends on when rules are checked exactly where a fault is overtaken. -/
theorem overtaken_iff (sources : List (Source P)) {early late : Error} (different : early ≠ late) :
    ofSources sources = .error early ∧ ofUnchecked sources = .error late ↔
      Overtaken sources early late := by
  refine ⟨?_, reports_of_overtaken⟩
  rw [ofSources_error_iff, collect_error_iff]
  rintro ⟨⟨before, source, after, rfl, sound, fault⟩, reported⟩
  rcases (Rule.toRule_error_iff source early).mp fault with refused | ⟨rule, taken, offends⟩
  · rw [ofUnchecked_of_refused (converted_of_sound sound) refused] at reported
    exact absurd (Except.error.inj reported) different
  · by_cases converted : ∀ source ∈ after, ∃ rule, source.unchecked = .ok rule
    · rw [ofUnchecked_of_offends sound taken offends converted] at reported
      exact absurd (Except.error.inj reported) different
    · -- what is reported late is the first source behind the offending rule that stands for no rule
      obtain ⟨reason, others⟩ := refused_of_some converted
      obtain ⟨between, failing, rest, rfl, converted, refused⟩ := (collect_error_iff _ _ _).mp others
      have overtaken : Overtaken (before ++ source :: (between ++ failing :: rest)) early reason :=
        .intro sound taken offends converted refused
      rw [(reports_of_overtaken overtaken).2] at reported
      rwa [← Except.error.inj reported]

end Schema

/-! ### Definitions -/

namespace Definition

/-- The table of a definition has the schemas that its entries stand for, if all of them do. -/
theorem build_schemas (definition : Definition) :
    definition.build.table.map (fun table => table.bindings.map Binding.schema) =
      definition.entries.mapM fun entry => Schema.ofJsonRules entry.schema := by
  have builds := (builds_iff definition definition.build).mpr rfl
  generalize definition.build = result at builds ⊢
  cases builds with
  | whole made =>
    refine Eq.symm ((collect_ok_iff _ _ _).mpr ?_)
    rw [List.forall₂_map_right_iff]
    refine made.imp fun entry binding makes => ?_
    obtain ⟨spellings, spelled, rfl⟩ := makes
    exact (Schema.ofJsonRules_ok_iff _ _).mpr ⟨spellings, spelled, rfl⟩
  | @refused before entry after error bindings split made fault =>
    refine Eq.symm ((collect_error_iff _ _ _).mpr ⟨before, entry, after, split, ?_, ?_⟩)
    · intro earlier among
      obtain ⟨index, there⟩ := List.mem_iff_getElem?.mp among
      obtain ⟨binding, -, spellings, spelled, -⟩ := partner made there
      exact ⟨_, (Schema.ofJsonRules_ok_iff _ _).mpr ⟨spellings, spelled, rfl⟩⟩
    · exact (Schema.ofJsonRules_error_iff _ _).mpr fault

end Definition

/-- However a schema is made, from texts, lists, rules or documents, it has the same rules in the same
order or is refused for the same reason. Where sources are refused at different times, the reports
differ only if a rule that offends is overtaken by a source behind it that stands for no rule. -/
theorem schemas_made_alike :
    (∀ row : List Rule.Written,
      let written : Except Error (Schema P) := Schema.ofSources (row.map Rule.Written.source)
      Schema.ofJson (.array (row.map Rule.Written.document)) = written ∧
      Schema.ofSources (row.map fun rule => .result rule.source.toRule) = written ∧
      Schema.ofResults (row.map fun rule => rule.source.toRule) = written) ∧
    (∀ (config : Config) (entries : List (List Rule.Written × String)) (fallback : Option String),
      let definition : Definition :=
        ⟨config, entries.map fun entry => ⟨entry.1.map Rule.Written.document, entry.2⟩, fallback⟩
      definition.build.table.map (fun table => table.bindings.map Binding.schema) =
        entries.mapM fun entry => Schema.ofSources (entry.1.map Rule.Written.source)) ∧
    (∀ rules : List (Rule P), Schema.ofSources (rules.map .rule) = Schema.ofRules rules) ∧
    ∀ sources : List (Rule.Source P),
      (∀ schema, Schema.ofUnchecked sources = .ok schema ↔ Schema.ofSources sources = .ok schema) ∧
      ∀ early late, early ≠ late →
        (Schema.ofSources sources = .error early ∧ Schema.ofUnchecked sources = .error late ↔
          Schema.Overtaken sources early late) := by
  refine ⟨fun row => ⟨Schema.ofJson_written row, ?_, ?_⟩, fun config entries fallback => ?_,
    Schema.ofSources_rules, fun sources => ⟨Schema.ofUnchecked_ok_iff sources, ?_⟩⟩
  · have handedOn : (fun rule : Rule.Written => (Rule.Source.result (P := P) rule.source.toRule).toRule) =
        fun rule => rule.source.toRule := funext fun rule => Rule.toRule_handed_on rule.source
    unfold Schema.ofSources
    rw [List.map_map, List.map_map]
    exact congrArg (fun toRule => Schema.ofResults (row.map toRule)) handedOn
  · unfold Schema.ofSources
    rw [List.map_map]
    rfl
  · dsimp only
    rw [Definition.build_schemas, List.mapM_map]
    exact congrArg (List.mapM · entries) (funext fun entry => Schema.ofJson_written entry.1)
  · exact fun early late different => Schema.overtaken_iff sources different

end Multimethod
