import Mathlib.Data.List.TakeWhile
import Multimethod.Definition
import Multimethod.Proofs.Growth
import Multimethod.Proofs.Spelling

/-!
Building the table of a definition. `Builds` says what comes of a definition by its documents alone: a
table with one binding for each entry, or the report on the first document that spells no rule. The
table then answers a call with the label of the first entry that accepts it, which `resolve_built`
settles. `definition_builds` puts the two together.
-/
namespace Multimethod.Definition

/-- The binding that is to be made of an entry: rules as they are spelled, and the label for a
handler. -/
def Entry.Makes (entry : Entry) (binding : Binding Empty String) : Prop :=
  ∃ spellings : List Spelling, entry.schema = spellings.map Spelling.document ∧
    binding = ⟨⟨spellings.map Spelling.rule⟩, .native entry.label⟩

/-- Some document of an entry spells no rule; the first that does not is reported. -/
def Entry.Faulty (entry : Entry) (error : Error) : Prop :=
  ∃ before document after, entry.schema = before ++ document :: after ∧
    (∀ earlier ∈ before, ∃ spelling : Spelling, earlier = spelling.document) ∧
    NoSpelling document error

/-- What comes of a definition. Each binding that is made is reported, also where a later entry is at
fault; the table is reported only when it is whole. -/
inductive Builds (definition : Definition) : Build → Prop where
  | whole {bindings : List (Binding Empty String)}
      (made : List.Forall₂ Entry.Makes definition.entries bindings) :
      Builds definition
        ⟨bindings.mapIdx (Table.reportOf definition.config) ++
          [.built definition.config.name definition.entries.length definition.fallback.isSome],
         .ok ⟨definition.config, bindings, definition.fallback.map .native⟩⟩
  | refused {before : List Entry} {entry : Entry} {after : List Entry} {error : Error}
      {bindings : List (Binding Empty String)} (split : definition.entries = before ++ entry :: after)
      (made : List.Forall₂ Entry.Makes before bindings) (fault : entry.Faulty error) :
      Builds definition ⟨bindings.mapIdx (Table.reportOf definition.config), .error error⟩

/-! ### Entries -/

private theorem makes_iff (entry : Entry) (binding : Binding Empty String) :
    entry.Makes binding ↔ entry.registration.binding? = some binding := by
  cases made : (Schema.ofJsonRules entry.schema : Except Error (Schema Empty)) with
  | error error =>
    simp only [Entry.registration, made, Registration.binding?, reduceCtorEq, iff_false]
    rintro ⟨spellings, spelled, -⟩
    rw [(Schema.ofJsonRules_ok_iff _ _).mpr ⟨spellings, spelled, rfl⟩] at made
    cases made
  | ok schema =>
    simp only [Entry.registration, made, Registration.binding?, Option.some.injEq]
    constructor
    · rintro ⟨spellings, spelled, rfl⟩
      rw [(Schema.ofJsonRules_ok_iff _ _).mpr ⟨spellings, spelled, rfl⟩] at made
      cases made
      rfl
    · rintro rfl
      obtain ⟨spellings, spelled, rfl⟩ := (Schema.ofJsonRules_ok_iff _ _).mp made
      exact ⟨spellings, spelled, rfl⟩

private theorem faulty_iff (entry : Entry) (error : Error) :
    entry.Faulty error ↔ entry.registration.refusal? = some error := by
  unfold Entry.Faulty
  rw [← Schema.ofJsonRules_error_iff (P := Empty)]
  cases made : (Schema.ofJsonRules entry.schema : Except Error (Schema Empty)) <;>
    simp [Entry.registration, made, Registration.refusal?, Registration.schemaError?,
      Registration.valueError?]

private theorem accepted_of_binding {step : Registration Empty String} {binding : Binding Empty String}
    (given : step.binding? = some binding) : step.refusal? = none := by
  cases step.decided with
  | refused refusal unbound unset ends => cases unbound.symm.trans given
  | binds accepted given unset ends => exact accepted
  | sets accepted unbound given ends => exact accepted

/-- Entries of which bindings are made are registered without a refusal. -/
theorem made_registers {entries : List Entry} {bindings : List (Binding Empty String)}
    (made : List.Forall₂ Entry.Makes entries bindings) :
    (entries.map Entry.registration).filterMap Registration.binding? = bindings ∧
      ∀ step ∈ entries.map Entry.registration, step.refusal? = none := by
  induction made with
  | nil => exact ⟨rfl, fun _ among => absurd among List.not_mem_nil⟩
  | @cons entry binding entries bindings first _ ih =>
    have given := (makes_iff entry binding).mp first
    refine ⟨?_, List.forall_mem_cons.mpr ⟨accepted_of_binding given, ih.2⟩⟩
    rw [List.map_cons, List.filterMap_cons_some given, ih.1]

/-- Either every entry makes a binding, or all before some faulty one do. -/
theorem entries_decided (entries : List Entry) :
    (∃ bindings, List.Forall₂ Entry.Makes entries bindings) ∨
      ∃ before entry after bindings error, entries = before ++ entry :: after ∧
        List.Forall₂ Entry.Makes before bindings ∧ entry.Faulty error := by
  induction entries with
  | nil => exact .inl ⟨[], .nil⟩
  | cons entry rest ih =>
    cases made : (Schema.ofJsonRules entry.schema : Except Error (Schema Empty)) with
    | error error =>
      exact .inr ⟨[], entry, rest, [], error, rfl, .nil, (Schema.ofJsonRules_error_iff _ _).mp made⟩
    | ok schema =>
      obtain ⟨spellings, spelled, -⟩ := (Schema.ofJsonRules_ok_iff _ _).mp made
      have first : entry.Makes _ := ⟨spellings, spelled, rfl⟩
      rcases ih with ⟨bindings, others⟩ | ⟨before, faulty, after, bindings, error, rfl, others, fault⟩
      · exact .inl ⟨_ :: bindings, .cons first others⟩
      · exact .inr ⟨entry :: before, faulty, after, _ :: bindings, error, rfl, .cons first others,
          fault⟩

/-! ### Building -/

/-- Building goes by the registrations of the entries up to the first that is refused. -/
theorem build_eq (definition : Definition) :
    let steps := definition.entries.map Entry.registration
    let taken := steps.takeWhile fun step => step.refusal?.isNone
    let bindings := taken.filterMap Registration.binding?
    let events := bindings.mapIdx (Table.reportOf definition.config)
    definition.build = (steps.findSome? Registration.refusal?).elim
      ⟨events ++ [.built definition.config.name bindings.length definition.fallback.isSome],
        .ok ⟨definition.config, bindings, definition.fallback.map .native⟩⟩
      fun error => ⟨events, .error error⟩ := by
  intro steps taken bindings events
  simp only [build, Table.registerAll_eq_attempts, Table.attemptAll_leaves]
  cases (definition.entries.map Entry.registration).findSome? Registration.refusal? with
  | some error =>
    simp [Table.empty, Table.length, events, bindings, taken, steps]
  | none =>
    simp [Table.empty, Table.length, Table.hasFallback, events, bindings, taken, steps]

private theorem build_of_builds {definition : Definition} {result : Build}
    (builds : definition.Builds result) : definition.build = result := by
  rw [build_eq]
  cases builds with
  | @whole bindings made =>
    obtain ⟨given, accepted⟩ := made_registers made
    have taken : (definition.entries.map Entry.registration).takeWhile
        (fun step => step.refusal?.isNone) = definition.entries.map Entry.registration :=
      List.takeWhile_eq_self_iff.mpr fun step among => by simp [accepted step among]
    have unrefused :
        (definition.entries.map Entry.registration).findSome? Registration.refusal? = none :=
      List.findSome?_eq_none_iff.mpr accepted
    simp only [taken, given, unrefused, Option.elim, made.length_eq]
  | @refused before entry after error bindings split made fault =>
    obtain ⟨given, accepted⟩ := made_registers made
    have refused := (faulty_iff entry error).mp fault
    have taken : (definition.entries.map Entry.registration).takeWhile
        (fun step => step.refusal?.isNone) = before.map Entry.registration := by
      rw [split, List.map_append, List.map_cons,
        List.takeWhile_append_of_pos fun step among => by simp [accepted step among],
        List.takeWhile_cons_of_neg (by simp [refused]), List.append_nil]
    have first : (definition.entries.map Entry.registration).findSome? Registration.refusal? =
        some error := by
      rw [split, List.map_append, List.map_cons, List.findSome?_append,
        List.findSome?_eq_none_iff.mpr accepted, Option.none_or, List.findSome?_cons, refused]
    simp only [taken, given, first, Option.elim]

/-- What comes of a definition is settled by its documents. -/
theorem builds_iff (definition : Definition) (result : Build) :
    definition.Builds result ↔ definition.build = result := by
  refine ⟨build_of_builds, ?_⟩
  rintro rfl
  rcases entries_decided definition.entries with
    ⟨bindings, made⟩ | ⟨before, entry, after, bindings, error, split, made, fault⟩
  · have builds : definition.Builds _ := .whole made
    rw [build_of_builds builds]
    exact builds
  · have builds : definition.Builds _ := .refused split made fault
    rw [build_of_builds builds]
    exact builds

theorem built_iff (definition : Definition) (table : LabelTable) :
    definition.build.table = .ok table ↔ ∃ bindings,
      List.Forall₂ Entry.Makes definition.entries bindings ∧
      table = ⟨definition.config, bindings, definition.fallback.map .native⟩ := by
  constructor
  · intro built
    have builds := (builds_iff definition definition.build).mpr rfl
    generalize definition.build = result at built builds
    cases builds with
    | whole made =>
      cases built
      exact ⟨_, made, rfl⟩
    | refused split made fault => cases built
  · rintro ⟨bindings, made, rfl⟩
    rw [build_of_builds (.whole made)]

/-! ### Calls on the table -/

/-- Definitions have no predicates. -/
def noPredicates (impossible : Empty) (_ : Value) : Bool := nomatch impossible

/-- Whether an entry accepts a call, said of the rules that its documents spell. -/
def Entry.Accepts (entry : Entry) (args : List Value) : Prop :=
  ∃ spellings : List Spelling, entry.schema = spellings.map Spelling.document ∧
    (⟨spellings.map Spelling.rule⟩ : Schema Empty).Admits noPredicates args

/-- The answer of a definition to a call: the label of the first entry that accepts it, else the text of
the fallback, else none. -/
inductive Answers (definition : Definition) (args : List Value) : Outcome → Prop where
  | matched {index : Nat} {entry : Entry} (standing : definition.entries[index]? = some entry)
      (accepts : entry.Accepts args)
      (first : ∀ earlier other, earlier < index → definition.entries[earlier]? = some other →
        ¬ other.Accepts args) :
      Answers definition args (.matched index (.string entry.label))
  | fallback {text : String} (rejected : ∀ entry ∈ definition.entries, ¬ entry.Accepts args)
      (given : definition.fallback = some text) : Answers definition args (.fallback (.string text))
  | noMatch (rejected : ∀ entry ∈ definition.entries, ¬ entry.Accepts args)
      (missing : definition.fallback = none) : Answers definition args .noMatch

private theorem accepts_iff {entry : Entry} {binding : Binding Empty String} (made : entry.Makes binding)
    (args : List Value) : entry.Accepts args ↔ binding.schema.Admits noPredicates args := by
  obtain ⟨spellings, spelled, rfl⟩ := made
  refine ⟨?_, fun admits => ⟨spellings, spelled, admits⟩⟩
  rintro ⟨others, same, admits⟩
  have one := (Schema.ofJsonRules_ok_iff (P := Empty) entry.schema _).mpr ⟨spellings, spelled, rfl⟩
  have other := (Schema.ofJsonRules_ok_iff (P := Empty) entry.schema _).mpr ⟨others, same, rfl⟩
  rw [Except.ok.inj (one.symm.trans other)]
  exact admits

theorem host_without_predicates : host.withAnswers noPredicates = host := by
  have tests : (fun p value => pure (noPredicates p value)) = host.test := by
    funext impossible
    cases impossible
  unfold Host.withAnswers
  rw [tests]

/-- What stands in one of two lists that belong together has its partner in the other. -/
theorem partner {α β : Type} {related : α → β → Prop} {lefts : List α} {rights : List β}
    (pairs : List.Forall₂ related lefts rights) {index : Nat} {left : α}
    (standing : lefts[index]? = some left) :
    ∃ right, rights[index]? = some right ∧ related left right := by
  induction pairs generalizing index with
  | nil => cases standing
  | cons pair _ ih =>
    cases index with
    | zero =>
      cases standing
      exact ⟨_, rfl, pair⟩
    | succ index => exact ih standing

/-- The table of a definition answers calls as the definition says. -/
theorem resolve_built {definition : Definition} {table : LabelTable}
    (built : definition.build.table = .ok table) (args : List Value) (log : List Event) :
    definition.Answers args ((table.resolve host args).run log).1 := by
  obtain ⟨bindings, made, rfl⟩ := (built_iff definition table).mp built
  let table : LabelTable := ⟨definition.config, bindings, definition.fallback.map .native⟩
  have finds := Table.firstAccepting_finds noPredicates table args
  rw [← Table.search_without_effects host noPredicates table args log, host_without_predicates] at finds
  change definition.Answers args ((table.resolve host args).run log).1
  unfold Table.resolve
  rw [run_then]
  generalize (table.firstAccepting host args).run log = search at finds ⊢
  obtain ⟨found, after⟩ := search
  cases found with
  | some found =>
    obtain ⟨index, binding⟩ := found
    obtain ⟨standing, admits, least⟩ := finds
    obtain ⟨entry, held, makes⟩ := partner made.flip standing
    have accepts : entry.Accepts args := (accepts_iff makes args).mpr admits
    have first : ∀ earlier other, earlier < index → definition.entries[earlier]? = some other →
        ¬ other.Accepts args := by
      intro earlier other before there
      obtain ⟨rival, rivalStanding, rivalMade⟩ := partner made there
      rw [accepts_iff rivalMade]
      exact least earlier rival before rivalStanding
    have answers := Answers.matched held accepts first
    obtain ⟨spellings, -, rfl⟩ := makes
    exact answers
  | none =>
    have rejected : ∀ entry ∈ definition.entries, ¬ entry.Accepts args := by
      intro entry among
      obtain ⟨index, there⟩ := List.mem_iff_getElem?.mp among
      obtain ⟨binding, standing, makes⟩ := partner made there
      rw [accepts_iff makes]
      exact finds binding (List.mem_of_getElem? standing)
    cases given : definition.fallback with
    | some text =>
      have answers := Answers.fallback rejected given
      have fallback : table.fallback = some (.native text) := congrArg (Option.map Handler.native) given
      simp only [fallback]
      exact answers
    | none =>
      have answers := Answers.noMatch rejected given
      have fallback : table.fallback = none := congrArg (Option.map Handler.native) given
      simp only [fallback]
      exact answers

/-! ### Faults -/

private theorem noWord_kind {document : Json} {error : Error} (fault : NoWord document error) :
    ∃ text, error = .invalidRule text := by
  cases fault with
  | unknown unwritten => exact ⟨_, rfl⟩
  | no_text other => exact ⟨_, rfl⟩

/-- A document of a rule is reported for its text or for being an empty list, and for nothing else. -/
theorem noSpelling_kind {document : Json} {error : Error} (fault : NoSpelling document error) :
    error = .emptyUnion ∨ ∃ text, error = .invalidRule text := by
  cases fault with
  | single no_list fault => exact .inr (noWord_kind fault)
  | empty => exact .inl rfl
  | member earlier fault => exact .inr (noWord_kind fault)

private theorem build_error_kind {definition : Definition} {error : Error}
    (refused : definition.build.table = .error error) :
    error = .emptyUnion ∨ ∃ text, error = .invalidRule text := by
  have builds := (builds_iff definition definition.build).mpr rfl
  generalize definition.build = result at refused builds
  cases builds with
  | whole made => cases refused
  | refused split made fault =>
    cases refused
    obtain ⟨before, document, after, -, -, fault⟩ := fault
    exact noSpelling_kind fault

theorem build_error_origin {definition : Definition} {error : Error}
    (refused : definition.build.table = .error error) : error.origin = .rule := by
  rcases build_error_kind refused with rfl | ⟨text, rfl⟩ <;> rfl

/-- A definition has a table exactly if all documents of its entries spell rules. -/
theorem built_exactly_spelled (definition : Definition) :
    (∃ table, definition.build.table = .ok table) ↔ ∀ entry ∈ definition.entries,
      ∀ document ∈ entry.schema, ∃ spelling : Spelling, document = spelling.document := by
  constructor
  · rintro ⟨table, built⟩ entry among document inside
    obtain ⟨bindings, made, -⟩ := (built_iff definition table).mp built
    obtain ⟨index, there⟩ := List.mem_iff_getElem?.mp among
    obtain ⟨binding, -, spellings, spelled, -⟩ := partner made there
    rw [spelled] at inside
    obtain ⟨spelling, -, rfl⟩ := List.mem_map.mp inside
    exact ⟨spelling, rfl⟩
  · intro spelled
    have builds := (builds_iff definition definition.build).mpr rfl
    generalize definition.build = result at builds ⊢
    cases builds with
    | whole made => exact ⟨_, rfl⟩
    | @refused before entry after error bindings split made fault =>
      obtain ⟨sound, document, others, schema, -, fault⟩ := fault
      have among : entry ∈ definition.entries := by simp [split]
      have inside : document ∈ entry.schema := by simp [schema]
      exact absurd (spelled entry among document inside) (Rule.unspelled fault)

/-- There is a table exactly if all documents of a definition spell rules, and it answers every call
with the label of the first entry that accepts it, else with the text of the fallback. Otherwise the
first document that spells no rule is reported. -/
theorem definition_builds (definition : Definition) :
    (∀ result, definition.Builds result ↔ definition.build = result) ∧
    ((∃ table, definition.build.table = .ok table) ↔ ∀ entry ∈ definition.entries,
      ∀ document ∈ entry.schema, ∃ spelling : Spelling, document = spelling.document) ∧
    (∀ table, definition.build.table = .ok table → ∀ args log,
      definition.Answers args ((table.resolve host args).run log).1) ∧
    (∀ error, definition.build.table = .error error → error.origin = .rule ∧
      (error = .emptyUnion ∨ ∃ text, error = .invalidRule text)) :=
  ⟨builds_iff definition, built_exactly_spelled definition, fun _ => resolve_built,
    fun _ refused => ⟨build_error_origin refused, build_error_kind refused⟩⟩

end Multimethod.Definition
