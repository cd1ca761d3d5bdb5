import Multimethod.Definition.Answer
import Multimethod.Files
import Multimethod.Rule.Grammar

/-!
The command line: resolving a call against a definition file, listing the grammar of rules, and
printing the default configuration.

What an invocation does is computed from its arguments and from what it reads; it prints nothing
itself, but says what is to be printed. Lines that ask for help or for the version are left out.
-/
namespace Multimethod.CommandLine

/-! ### Arguments -/

/-- The flags. -/
inductive Flag where
  | verbose
  | explain
deriving DecidableEq

/-- The flag of a long name. -/
def Flag.ofName? (name : String) : Option Flag :=
  if name = "verbose" then some .verbose
  else if name = "explain" then some .explain
  else none

/-- The flag of a letter. -/
def Flag.ofLetter? (letter : Char) : Option Flag :=
  if letter = 'v' then some .verbose
  else if letter = 'e' then some .explain
  else none

/-- How an argument reads as long as flags are still possible. -/
inductive Argument where
  | flags (flags : List Flag)
  /-- All that follows are operands. -/
  | endOfFlags
  | operand (text : String)
  | unknown

/-- The reading of an argument. One hyphen starts letters, two start a name; a hyphen alone is an
operand. -/
def Argument.of (arg : String) : Argument :=
  match arg.toList with
  | ['-', '-'] => .endOfFlags
  | '-' :: '-' :: name => (Flag.ofName? (String.ofList name)).elim .unknown fun flag => .flags [flag]
  | '-' :: letter :: more => ((letter :: more).mapM Flag.ofLetter?).elim .unknown .flags
  | _ => .operand arg

/-- The flags and operands among arguments that may stand in any order. -/
def flagsAndOperands : List String → Option (List Flag × List String)
  | [] => some ([], [])
  | arg :: rest =>
    match Argument.of arg with
    | .flags flags => do
      let (more, operands) ← flagsAndOperands rest
      return (flags ++ more, operands)
    | .endOfFlags => some ([], rest)
    | .operand text => do
      let (flags, operands) ← flagsAndOperands rest
      return (flags, text :: operands)
    | .unknown => none

/-- The flags up to the first operand, that operand, and what follows it. -/
def flagsAndCommand : List String → Option (List Flag × String × List String)
  | [] => none
  | arg :: rest =>
    match Argument.of arg with
    | .flags flags => do
      let (more, command, operands) ← flagsAndCommand rest
      return (flags ++ more, command, operands)
    | .operand text => some ([], text, rest)
    | _ => none

/-- What is to be done. -/
inductive Command where
  /-- Resolves a call. Its arguments are read from standard input where none are given. -/
  | resolve (path : String) (arguments : Option String) (explain : Bool)
  | tags
  | config
deriving DecidableEq

/-- What is to be done, and whether to report on it in detail. -/
structure Invocation where
  verbose : Bool
  command : Command
deriving DecidableEq

/-- The invocation that arguments ask for. No flag may be given twice on one side of the command,
and only those may be given that mean something there. The flags `-h`, `--help`, `-V` and `--version` and
the command `help` are not among them: a line with one of these is read as one that makes no sense. -/
def Invocation.parse (args : List String) : Option Invocation := do
  let (before, name, rest) ← flagsAndCommand args
  let (after, operands) ← flagsAndOperands rest
  guard (before.Nodup ∧ after.Nodup ∧ Flag.explain ∉ before)
  let verbose := Flag.verbose ∈ before ∨ Flag.verbose ∈ after
  let explain := Flag.explain ∈ after
  let command ←
    match name, operands with
    | "resolve", [path] => some (.resolve path none explain)
    | "resolve", [path, arguments] => some (.resolve path (some arguments) explain)
    | "tags", [] => if explain then none else some .tags
    | "config", [] => if explain then none else some .config
    | _, _ => none
  if let .resolve "" _ _ := command then none
  return ⟨verbose, command⟩

/-! ### Running -/

/-- What an invocation reads: files by their path, and standard input. Either may fail for a reason
that the system gives in words. -/
structure Console (m : Type → Type) where
  file : String → m (Except String String)
  input : m (Except String String)

/-- A console at a place in a tree of files, with what standard input holds. -/
def Console.ofPlace (here : Files.Place) (input : String) : Console Id where
  file path := (here.read path).mapError Files.Refusal.message
  input := .ok input

/-- Why an invocation failed: what was being done, and what went wrong. -/
structure Failure where
  context : String
  cause : String
deriving DecidableEq

/-- What an invocation prints: lines, events, and perhaps why it failed. -/
structure Result where
  lines : List String := []
  events : List Event := []
  failure : Option Failure := none
deriving DecidableEq

/-- The status with which an invocation ends. -/
def Result.status (result : Result) : Nat :=
  if result.failure.isNone then 0 else 1

/-- The events as they are printed. -/
def Result.log (result : Result) : List String :=
  result.events.map Event.terminalLine

/-- Reports failure after some events. Nothing is printed then. -/
def Result.failed (events : List Event) (context cause : String) : Result :=
  { events, failure := some ⟨context, cause⟩ }

/-- What is said about a call on a table, with a verdict for each binding if wanted. -/
def reply (table : Definition.LabelTable) (args : List Value) (explain : Bool) : Result :=
  let verdicts := if explain then ((table.verdicts Definition.host args).run []).1 else []
  let (outcome, events) := (table.resolve Definition.host args).run []
  { lines := verdicts.map Verdict.line ++ [table.describe outcome]
    events := events ++ [.resolved table.config.name args.length table.length] }

variable {m : Type → Type} [Monad m]

/-- Resolves a call against the definition in a file. The definition is read, parsed and built before
the arguments are looked at. -/
def resolve (console : Console m) (path : String) (arguments : Option String) (explain : Bool) :
    m Result := do
  let loading : Event := .loading path
  match ← console.file path with
  | .error reason => return .failed [loading] ("Failed to read table file: " ++ path) reason
  | .ok text =>
    match Definition.parse text with
    | .error fault =>
      return .failed [loading] ("Failed to parse table file: " ++ path) (Error.json fault).message
    | .ok definition =>
      let build := definition.build
      let events := loading :: build.events
      match build.table with
      | .error error =>
        return .failed events ("Invalid " ++ error.origin.name ++ " in table file: " ++ path)
          error.message
      | .ok table =>
        match ← arguments.elim console.input (fun given => return .ok given) with
        | .error reason => return .failed events "Failed to read arguments from stdin" reason
        | .ok source =>
          match Arguments.parse source with
          | .error error => return .failed events "Failed to parse arguments" error.message
          | .ok args =>
            let reply := reply table args explain
            return { reply with events := events ++ reply.events }

/-- Whether an event is reported. -/
def reported (verbose : Bool) (event : Event) : Bool :=
  match event.level with
  | .info => true
  | .debug => verbose
  | .trace => false

/-- Does what an invocation asks for. -/
def Invocation.run (console : Console m) (invocation : Invocation) : m Result := do
  match invocation.command with
  | .resolve path arguments explain =>
    let result ← resolve console path arguments explain
    return { result with events := result.events.filter (reported invocation.verbose) }
  | .tags => return { lines := Rule.grammarLines }
  | .config => return { lines := [({} : Config).toJson.indented] }

/-- Runs the program with the given arguments; there is no result if they make no sense. -/
def run (console : Console m) (args : List String) : m (Option Result) :=
  match Invocation.parse args with
  | none => return none
  | some invocation => some <$> invocation.run console

end Multimethod.CommandLine
