import Mathlib
import Multimethod.CommandLine
import Multimethod.Proofs.Verdicts

/-!
Calls whose table and arguments are given as text. Whether such a call is answered is settled in stages:
the text of the definition is read, then its table is built, and only then are the arguments read. The
library and the command line stop at the same stage of the same texts, or give the same answer:
`command_line_agrees`.
-/
namespace Multimethod

namespace Definition

/-! ### Stages -/

/-- What is looked at before a call on the table of a definition is answered. -/
inductive Stage where
  | definition
  | rules
  | arguments
deriving DecidableEq

/-- The stage at which texts turn out to be no call on a table, and the report on it. Rules are reported
as `Builds` has it, and the arguments are looked at only where there is a table. -/
inductive Stops (source arguments : String) : Stage → Error → Prop where
  | definition {fault : Json.Fault} (unread : parse source = .error fault) :
      Stops source arguments .definition (.json fault)
  | rules {definition : Definition} {events : List Event} {error : Error}
      (read : parse source = .ok definition) (refused : definition.Builds ⟨events, .error error⟩) :
      Stops source arguments .rules error
  | arguments {definition : Definition} {table : LabelTable} {fault : Json.Fault}
      (read : parse source = .ok definition) (built : definition.build.table = .ok table)
      (unread : Json.parse arguments = .error fault) :
      Stops source arguments .arguments (.json fault)

/-- The call that texts hold: a definition that has a table, and arguments. -/
structure Stands (source arguments : String) (definition : Definition) (table : LabelTable)
    (args : List Value) : Prop where
  read : parse source = .ok definition
  built : definition.build.table = .ok table
  supplied : Arguments.parse arguments = .ok args

variable {source arguments : String} {definition : Definition} {table : LabelTable}
  {args : List Value} {stage : Stage} {error : Error}

private theorem arguments_unread {fault : Json.Fault} (unread : Json.parse arguments = .error fault) :
    Arguments.parse arguments = .error (.json fault) := by
  unfold Arguments.parse
  rw [unread]
  rfl

theorem arguments_read {document : Json} (read : Json.parse arguments = .ok document) :
    Arguments.parse arguments = .ok (Arguments.ofJson document) := by
  unfold Arguments.parse
  rw [read]
  rfl

private theorem refused_of_builds {events : List Event}
    (refused : definition.Builds ⟨events, .error error⟩) : definition.build.table = .error error :=
  congrArg Build.table ((builds_iff definition _).mp refused)

/-- Texts hold a call, or they stop at some stage. -/
theorem stands_or_stops (source arguments : String) :
    (∃ definition table args, Stands source arguments definition table args) ∨
      ∃ stage error, Stops source arguments stage error := by
  cases read : parse source with
  | error fault => exact .inr ⟨_, _, .definition read⟩
  | ok definition =>
    have builds := (builds_iff definition definition.build).mpr rfl
    generalize made : definition.build = result at builds
    obtain ⟨events, whole⟩ := result
    cases whole with
    | error error => exact .inr ⟨_, _, .rules read builds⟩
    | ok table =>
      have built : definition.build.table = .ok table := congrArg Build.table made
      cases supplied : Json.parse arguments with
      | error fault => exact .inr ⟨_, _, .arguments read built supplied⟩
      | ok document => exact .inl ⟨definition, table, _, read, built, arguments_read supplied⟩

/-! ### The library -/

private theorem load_of_read (read : parse source = .ok definition) :
    load source = definition.build.table := by
  unfold load
  rw [read]
  rfl

private theorem answer_of_stands (stands : Stands source arguments definition table args) :
    answer source arguments = .ok (table.describe ((table.resolve host args).run []).1) := by
  unfold answer
  rw [load_of_read stands.read, stands.built, stands.supplied]
  rfl

private theorem verdicts_of_stands (stands : Stands source arguments definition table args) :
    verdicts source arguments = .ok ((table.verdicts host args).run []).1 := by
  unfold verdicts
  rw [load_of_read stands.read, stands.built, stands.supplied]
  rfl

private theorem answer_of_stops (stops : Stops source arguments stage error) :
    answer source arguments = .error error := by
  unfold answer
  cases stops with
  | definition unread =>
    unfold load
    rw [unread]
    rfl
  | rules read refused =>
    rw [load_of_read read, refused_of_builds refused]
    rfl
  | arguments read built unread =>
    rw [load_of_read read, built, arguments_unread unread]
    rfl

/-- Texts stop at one stage, for one reason. -/
theorem Stops.unique {stage' : Stage} {error' : Error} (one : Stops source arguments stage error)
    (other : Stops source arguments stage' error') : stage = stage' ∧ error = error' := by
  have stages : stage = stage' := by
    cases one with
    | definition unread =>
      cases other with
      | definition => rfl
      | rules read => cases unread.symm.trans read
      | arguments read => cases unread.symm.trans read
    | rules read refused =>
      have unbuilt := refused_of_builds refused
      cases other with
      | definition unread => cases read.symm.trans unread
      | rules => rfl
      | arguments read' built =>
        cases read.symm.trans read'
        cases unbuilt.symm.trans built
    | arguments read built =>
      cases other with
      | definition unread => cases read.symm.trans unread
      | rules read' refused =>
        cases read.symm.trans read'
        cases built.symm.trans (refused_of_builds refused)
      | arguments => rfl
  have errors : (.error error : Except Error String) = .error error' :=
    (answer_of_stops one).symm.trans (answer_of_stops other)
  exact ⟨stages, Except.error.inj errors⟩

/-- The verdicts on a call are those on the bindings of the table, in order. -/
theorem verdicts_in_order (table : LabelTable) (args : List Value) (log : List Event) :
    ((table.verdicts host args).run log).1 =
      table.bindings.mapIdx (Table.verdictOn noPredicates args) := by
  have shown := Table.verdicts_still host noPredicates table args log
  rw [host_without_predicates] at shown
  rw [shown, Table.verdicts, Table.silent_verdictsFrom]
  simp only [Nat.zero_add]

/-! ### Stages in words -/

/-- What is being done at a stage, where the definition is in a file. -/
def Stage.context (path : String) : Stage → String
  | .definition => "Failed to parse table file: " ++ path
  | .rules => "Invalid rule in table file: " ++ path
  | .arguments => "Failed to parse arguments"

/-- The fourth and the seventeenth letter of what is said at a stage. -/
def Stage.letters : Stage → List (Option Char)
  | .definition => [some 'l', some 't']
  | .rules => [some 'a', some 't']
  | .arguments => [some 'l', some 'a']

private theorem Stage.context_letters (path : String) (stage : Stage) :
    [3, 16].map ((stage.context path).toList[·]?) = stage.letters := by
  cases stage with
  | definition =>
    change [3, 16].map (("Failed to parse table file: " ++ path).toList[·]?) = _
    rw [String.toList_append]
    rfl
  | rules =>
    change [3, 16].map (("Invalid rule in table file: " ++ path).toList[·]?) = _
    rw [String.toList_append]
    rfl
  | arguments =>
    change [3, 16].map ("Failed to parse arguments".toList[·]?) = _
    rfl

/-- The words tell the stages apart, whatever the file is called. -/
theorem Stage.context_injective (path : String) : Function.Injective (Stage.context path) := by
  intro one other same
  have letters : one.letters = other.letters := by
    rw [← one.context_letters path, ← other.context_letters path, same]
  cases one <;> cases other <;> simp [Stage.letters] at letters ⊢

end Definition

namespace CommandLine

open Definition (Stops Stands)

/-! ### The command line -/

variable {m : Type → Type} [Monad m]

/-- The texts that an invocation reads: a definition from a file, and the arguments of a call from the
command line or, where none are given there, from standard input. -/
structure Reads (console : Console m) (path : String) (given : Option String)
    (source arguments : String) : Prop where
  readable : console.file path = pure (.ok source)
  supplied : given = some arguments ∨ given = none ∧ console.input = pure (.ok arguments)

variable {console : Console m} {path : String} {given : Option String} {source arguments : String}

theorem Reads.input (reads : Reads console path given source arguments) :
    given.elim console.input (fun text => pure (.ok text)) = pure (.ok arguments) := by
  rcases reads.supplied with rfl | ⟨rfl, input⟩
  · rfl
  · exact input

variable [LawfulMonad m]

theorem resolve_of_stands {definition : Definition} {table : Definition.LabelTable}
    {args : List Value} (reads : Reads console path given source arguments)
    (stands : Stands source arguments definition table args) (explain : Bool) :
    ∃ events, resolve console path given explain =
      pure { reply table args explain with events } := by
  let events := .loading path :: definition.build.events ++ (reply table args explain).events
  refine ⟨events, ?_⟩
  simp only [resolve, reads.readable, pure_bind, stands.read, stands.built, reads.input,
    stands.supplied, events]

private theorem resolve_of_stops {stage : Definition.Stage} {error : Error}
    (reads : Reads console path given source arguments) (stops : Stops source arguments stage error)
    (explain : Bool) : ∃ events, resolve console path given explain =
      pure (.failed events (stage.context path) error.message) := by
  cases stops with
  | definition unread =>
    refine ⟨[.loading path], ?_⟩
    simp only [resolve, reads.readable, pure_bind, unread]
    rfl
  | @rules definition events error read refused =>
    have unbuilt := Definition.refused_of_builds refused
    refine ⟨.loading path :: definition.build.events, ?_⟩
    simp only [resolve, reads.readable, pure_bind, read, unbuilt, Definition.build_error_origin unbuilt]
    rfl
  | @arguments definition table fault read built unread =>
    refine ⟨.loading path :: definition.build.events, ?_⟩
    simp only [resolve, reads.readable, pure_bind, read, built, reads.input,
      Definition.arguments_unread unread]
    rfl

/-! ### Both on the same texts -/

/-- What an invocation comes to that resolves a call, measured by what the library says of the same
texts. -/
structure Agrees (source arguments path : String) (explain : Bool) (result : Result) : Prop where
  status : result.status = 0 ↔ ∃ line, Definition.answer source arguments = .ok line
  /-- An answer is the last line, and nothing but verdicts is printed before it. -/
  answered : ∀ line, Definition.answer source arguments = .ok line →
    ∃ definition table args, Stands source arguments definition table args ∧
      let verdicts := table.bindings.mapIdx (Table.verdictOn Definition.noPredicates args)
      Definition.verdicts source arguments = .ok verdicts ∧
      result.lines = (if explain then verdicts else []).map Verdict.line ++ [line]
  lines : ∀ line ∈ result.lines, OneLine line
  /-- Both give up at the same stage for the same reason, and then nothing is printed. -/
  stopped : ∀ stage error, Stops source arguments stage error →
    Definition.answer source arguments = .error error ∧ result.lines = [] ∧ result.status ≠ 0 ∧
      result.failure = some ⟨stage.context path, error.message⟩
  refused : ∀ error, Definition.answer source arguments = .error error →
    ∃ stage, Stops source arguments stage error
  attributed : ∀ stage, (∃ error, Stops source arguments stage error) ↔
    ∃ cause, result.failure = some ⟨stage.context path, cause⟩

private theorem not_stops_of_answered {line : String} {stage : Definition.Stage} {error : Error}
    (answered : Definition.answer source arguments = .ok line) :
    ¬ Stops source arguments stage error := fun stops => by
  rw [Definition.answer_of_stops stops] at answered
  cases answered

/-- The lines of a reply are the verdicts, if they are wanted, and the answer. -/
theorem reply_lines (table : Definition.LabelTable) (args : List Value) (explain : Bool) :
    (reply table args explain).lines =
      (if explain then table.bindings.mapIdx (Table.verdictOn Definition.noPredicates args)
        else []).map Verdict.line ++
      [table.describe ((table.resolve Definition.host args).run []).1] := by
  rw [← Definition.verdicts_in_order table args []]
  rfl

private theorem reply_oneLine {definition : Definition} {table : Definition.LabelTable}
    (built : definition.build.table = .ok table) (args : List Value) (explain : Bool) :
    ∀ line ∈ (reply table args explain).lines, OneLine line := by
  intro line among
  rw [reply_lines, List.mem_append, List.mem_singleton] at among
  rcases among with judged | rfl
  · obtain ⟨verdict, wanted, rfl⟩ := List.mem_map.mp judged
    cases explain with
    | false => cases wanted
    | true =>
      obtain ⟨index, within, rfl⟩ := List.mem_mapIdx.mp wanted
      have schema := Definition.built_schemas_oneLine built _ (List.getElem_mem within)
      exact verdict_oneLine schema
  · exact Definition.built_describe_oneLine built args []

private theorem agrees_of_stands {definition : Definition} {table : Definition.LabelTable}
    {args : List Value} (stands : Stands source arguments definition table args) (path : String)
    (explain : Bool) (events : List Event) :
    Agrees source arguments path explain { reply table args explain with events } := by
  have answered := Definition.answer_of_stands stands
  have judged := Definition.verdicts_of_stands stands
  rw [Definition.verdicts_in_order] at judged
  exact {
    status := ⟨fun _ => ⟨_, answered⟩, fun _ => rfl⟩
    answered := fun line given => by
      cases answered.symm.trans given
      exact ⟨definition, table, args, stands, judged, reply_lines table args explain⟩
    lines := reply_oneLine stands.built args explain
    stopped := fun stage error stops => absurd stops (not_stops_of_answered answered)
    refused := fun error refused => by cases answered.symm.trans refused
    attributed := fun stage =>
      ⟨fun ⟨error, stops⟩ => absurd stops (not_stops_of_answered answered),
        fun ⟨cause, failed⟩ => by cases failed⟩ }

private theorem agrees_of_stops {stage : Definition.Stage} {error : Error}
    (stops : Stops source arguments stage error) (path : String) (explain : Bool)
    (events : List Event) :
    Agrees source arguments path explain (.failed events (stage.context path) error.message) := by
  have refused := Definition.answer_of_stops stops
  have failed : (Result.failed events (stage.context path) error.message).status ≠ 0 := Nat.one_ne_zero
  exact {
    status := ⟨fun ended => absurd ended failed,
      fun ⟨line, answered⟩ => absurd stops (not_stops_of_answered answered)⟩
    answered := fun line answered => absurd stops (not_stops_of_answered answered)
    lines := fun line among => absurd among List.not_mem_nil
    stopped := fun stage' error' stops' => by
      obtain ⟨rfl, rfl⟩ := stops.unique stops'
      exact ⟨refused, rfl, failed, rfl⟩
    refused := fun error' refused' => by
      cases refused.symm.trans refused'
      exact ⟨stage, stops⟩
    attributed := fun stage' => by
      constructor
      · rintro ⟨error', stops'⟩
        obtain ⟨rfl, rfl⟩ := stops.unique stops'
        exact ⟨_, rfl⟩
      · rintro ⟨cause, same⟩
        have context : stage.context path = stage'.context path :=
          congrArg Failure.context (Option.some.inj same)
        exact ⟨error, Definition.Stage.context_injective path context ▸ stops⟩ }

theorem resolve_agrees (reads : Reads console path given source arguments) (explain : Bool)
    (kept : Event → Bool) :
    ∃ result, resolve console path given explain = pure result ∧
      Agrees source arguments path explain { result with events := result.events.filter kept } := by
  rcases Definition.stands_or_stops source arguments with
    ⟨definition, table, args, stands⟩ | ⟨stage, error, stops⟩
  · obtain ⟨events, replied⟩ := resolve_of_stands reads stands explain
    exact ⟨_, replied, agrees_of_stands stands path explain (events.filter kept)⟩
  · obtain ⟨events, failed⟩ := resolve_of_stops reads stops explain
    exact ⟨_, failed, agrees_of_stops stops path explain (events.filter kept)⟩

/-- The command line succeeds exactly if the library has an answer, which is then its last line, behind one
verdict on each binding if these are wanted. Otherwise it prints nothing and fails at the stage at which the
library fails, for the same reason. -/
theorem command_line_agrees (reads : Reads console path given source arguments)
    (verbose explain : Bool) :
    ∃ result, Invocation.run console ⟨verbose, .resolve path given explain⟩ = pure result ∧
      Agrees source arguments path explain result := by
  obtain ⟨result, resolved, agrees⟩ := resolve_agrees reads explain (reported verbose)
  refine ⟨_, ?_, agrees⟩
  simp only [Invocation.run, resolved, pure_bind]

/-- A table with two rules and a fallback answers a call on standard input with both verdicts, and arguments
on the command line that end too early stop it. -/
theorem command_line_agrees_on_two_rules :
    let square := "\x7b\"schema\":[\"number\"],\"label\":\"square\"\x7d"
    let box := "\x7b\"schema\":[[\"string\",\"symbol\"],\"boolean?\"],\"label\":\"box\"\x7d"
    let source := "\x7b\"rules\":[" ++ square ++ "," ++ box ++ "],\"fallback\":\"none\"\x7d"
    let tables : Files.Node := .directory [("shapes.json", .file source)]
    let console := Console.ofPlace (.root (.directory [("tables", tables)])) "[\"wide\", true]"
    Reads console "tables/shapes.json" none source "[\"wide\", true]" ∧
    (∃ result, Invocation.run console ⟨true, .resolve "tables/shapes.json" none true⟩ = pure result ∧
      Agrees source "[\"wide\", true]" "tables/shapes.json" true result ∧ result.status = 0 ∧
      result.lines = ["#0 (number) rejects", "#1 (string | symbol, boolean?) accepts",
        "matched #1 (string | symbol, boolean?) -> \"box\""]) ∧
    Reads console "tables/shapes.json" (some "[\"wide\"") source "[\"wide\"" ∧
    ∃ result, Invocation.run console
        ⟨false, .resolve "tables/shapes.json" (some "[\"wide\"") true⟩ = pure result ∧
      Agrees source "[\"wide\"" "tables/shapes.json" true result ∧ result.lines = [] ∧
      result.status ≠ 0 ∧ result.failure = some ⟨"Failed to parse arguments", "JSON error"⟩ := by
  have document : Json.parse "[\"wide\", true]" = .ok (.array [.string "wide", .bool true]) := by cbv
  have unread : Json.parse "[\"wide\"" = .error .truncated := by cbv
  intro square box source tables console
  have parsed : Definition.parse source = .ok ⟨{}, [⟨[.string "number"], "square"⟩,
      ⟨[.array [.string "string", .string "symbol"], .string "boolean?"], "box"⟩], some "none"⟩ := by
    subst source square box
    cbv
  have stands : Stands source "[\"wide\", true]" _ ⟨{}, [⟨⟨[.tag .number false]⟩, .native "square"⟩,
      ⟨⟨[.union [.tag .string false, .tag .symbol false], .tag .boolean true]⟩, .native "box"⟩],
      some (.native "none")⟩ [.string "wide", .bool true] :=
    ⟨parsed, rfl, Definition.arguments_read document⟩
  have piped : Reads console "tables/shapes.json" none source "[\"wide\", true]" :=
    ⟨rfl, .inr ⟨rfl, rfl⟩⟩
  have typed : Reads console "tables/shapes.json" (some "[\"wide\"") source "[\"wide\"" :=
    ⟨rfl, .inl rfl⟩
  obtain ⟨answered, ran, agrees⟩ := command_line_agrees piped true true
  obtain ⟨stopped, ran', agrees'⟩ := command_line_agrees typed false true
  have answer := Definition.answer_of_stands stands
  obtain ⟨_, _, _, stands', -, lines⟩ := agrees.answered _ answer
  cases parsed.symm.trans stands'.read
  cases stands.built.symm.trans stands'.built
  cases stands.supplied.symm.trans stands'.supplied
  obtain ⟨-, empty, failed, failure⟩ := agrees'.stopped .arguments _ (.arguments parsed rfl unread)
  exact ⟨piped, ⟨answered, ran, agrees, agrees.status.mpr ⟨_, answer⟩, lines⟩, typed, stopped, ran',
    agrees', empty, failed, failure⟩

end CommandLine

end Multimethod
