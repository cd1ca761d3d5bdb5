import Mathlib
import Multimethod.Proofs.Answering
import Multimethod.Proofs.Taken

/-!
The two channels for the arguments of a call: an operand of the command line, and standard input. A text comes
to the same through either unless it begins with a hyphen. Of all documents only numbers below zero do. As an
operand such a number passes for flags, none of which exists, unless two hyphens before it have put an end to
flags (`channels_agree_iff`).
-/
namespace Multimethod

namespace Json

/-- A document that begins with a hyphen is a number, and a digit comes next. -/
theorem number_of_hyphen {text : String} {json : Json} (read : parse text = .ok json)
    (hyphen : text.toList.head? = some '-') :
    (∃ n, json = .number n) ∧ ∃ c more, text.toList = '-' :: c :: more ∧ c.isDigit = true := by
  obtain ⟨document, ⟨before, written, after, blank, -, parts, denotes⟩, -, rfl⟩ := parse_ok_iff.mp read
  rw [parts, List.append_assoc] at hyphen
  have nothing : before = [] := by
    cases before with
    | nil => rfl
    | cons c before =>
      cases hyphen
      exact absurd (blank '-' List.mem_cons_self) (by decide)
  subst nothing
  rw [parts]
  cases denotes with
  | null => cases hyphen
  | bool b => cases b <;> cases hyphen
  | string => cases hyphen
  | array => cases hyphen
  | object => cases hyphen
  | @number numeral n =>
    obtain ⟨first, more, front, digit⟩ := numeral.whole.front
    refine ⟨⟨n, by rw [settled]⟩, first, ?_⟩
    unfold Reader.Numeral.chars at hyphen ⊢
    rw [front] at hyphen ⊢
    cases signed : numeral.negative with
    | true => exact ⟨_, rfl, digit⟩
    | false =>
      rw [signed] at hyphen
      cases hyphen
      exact absurd digit (by decide)

end Json

namespace CommandLine

open Definition (Stands)

/-! ### One argument -/

/-- What does not begin with a hyphen is an operand. -/
theorem operand_of_front {arg : String} (front : arg.toList.head? ≠ some '-') :
    Argument.of arg = .operand arg := by
  unfold Argument.of
  split
  case h_4 => rfl
  all_goals
    rename_i chars
    exact absurd (chars ▸ rfl) front

/-- No flag has a digit for its letter. -/
theorem unknown_of_digit {arg : String} {c : Char} {more : List Char}
    (chars : arg.toList = '-' :: c :: more) (digit : c.isDigit = true) : Argument.of arg = .unknown := by
  have differs : ∀ other : Char, other.isDigit = false → c ≠ other :=
    fun other noDigit same => Bool.false_ne_true (noDigit.symm.trans (same ▸ digit))
  have letter : Flag.ofLetter? c = none := by
    unfold Flag.ofLetter?
    rw [if_neg (differs 'v' (by decide)), if_neg (differs 'e' (by decide))]
  have hyphen := differs '-' (by decide)
  unfold Argument.of
  rw [chars]
  split
  · rename_i same
    cases same
    exact absurd rfl hyphen
  · rename_i same
    cases same
    exact absurd rfl hyphen
  · rename_i same
    cases same
    rw [List.mapM_cons, letter]
    rfl
  · rename_i other
    exact absurd rfl (other c more)

/-- A document that begins with a hyphen is not taken for an operand. -/
theorem unknown_of_document {document : String} {json : Json} (read : Json.parse document = .ok json)
    (hyphen : document.toList.head? = some '-') : Argument.of document = .unknown := by
  obtain ⟨-, c, more, chars, digit⟩ := Json.number_of_hyphen read hyphen
  exact unknown_of_digit chars digit

/-! ### Flags among the arguments -/

/-- Arguments all of which are flags. -/
structure Flags where
  args : List String
  all : ∀ arg ∈ args, ∃ flags, Argument.of arg = .flags flags

/-- The flags that an argument stands for. -/
def Argument.named : Argument → List Flag
  | .flags found => found
  | _ => []

/-- All flags that some arguments stand for. -/
def Flags.named (given : Flags) : List Flag :=
  given.args.flatMap fun arg => (Argument.of arg).named

private theorem flagsAndOperands_flags {arg : String} {flags : List Flag}
    (stands : Argument.of arg = .flags flags) (rest : List String) :
    flagsAndOperands (arg :: rest) =
      (flagsAndOperands rest).map fun found => (flags ++ found.1, found.2) := by
  rw [flagsAndOperands, stands]
  cases flagsAndOperands rest <;> rfl

private theorem flagsAndOperands_operand {arg text : String} (stands : Argument.of arg = .operand text)
    (rest : List String) : flagsAndOperands (arg :: rest) =
      (flagsAndOperands rest).map fun found => (found.1, text :: found.2) := by
  rw [flagsAndOperands, stands]
  cases flagsAndOperands rest <;> rfl

private theorem flagsAndOperands_unknown {arg : String} (stands : Argument.of arg = .unknown)
    (rest : List String) : flagsAndOperands (arg :: rest) = none := by
  rw [flagsAndOperands, stands]

private theorem flagsAndOperands_end (rest : List String) :
    flagsAndOperands ("--" :: rest) = some ([], rest) := by
  have stands : Argument.of "--" = .endOfFlags := rfl
  rw [flagsAndOperands, stands]

/-- Flags in front add to the flags that are found. -/
theorem flagsAndOperands_append (given : Flags) (rest : List String) :
    flagsAndOperands (given.args ++ rest) =
      (flagsAndOperands rest).map fun found => (given.named ++ found.1, found.2) := by
  obtain ⟨args, all⟩ := given
  unfold Flags.named
  dsimp only
  induction args with
  | nil => exact Option.map_id'.symm
  | cons arg args ih =>
    obtain ⟨flags, stands⟩ := all arg List.mem_cons_self
    rw [List.cons_append, flagsAndOperands_flags stands, ih fun arg among => all arg (.tail _ among),
      Option.map_map, List.flatMap_cons, stands]
    refine congrArg (Option.map · (flagsAndOperands rest)) (funext fun found => ?_)
    rw [List.append_assoc]
    rfl

private theorem flagsAndOperands_only (given : Flags) :
    flagsAndOperands given.args = some (given.named, []) := by
  rw [← List.append_nil given.args, flagsAndOperands_append]
  exact congrArg (fun flags => some (flags, [])) (List.append_nil _)

/-- The command is the first argument behind the flags. -/
theorem flagsAndCommand_append (given : Flags) {name : String} (stands : Argument.of name = .operand name)
    (rest : List String) :
    flagsAndCommand (given.args ++ name :: rest) = some (given.named, name, rest) := by
  obtain ⟨args, all⟩ := given
  unfold Flags.named
  dsimp only
  induction args with
  | nil =>
    rw [List.nil_append, flagsAndCommand, stands]
    rfl
  | cons arg args ih =>
    obtain ⟨flags, flagged⟩ := all arg List.mem_cons_self
    rw [List.cons_append, flagsAndCommand, flagged, ih fun arg among => all arg (.tail _ among),
      List.flatMap_cons, flagged]
    rfl

/-! ### Lines that resolve a call -/

/-- A line that resolves a call, up to the path of the definition, with flags wherever they may stand. -/
structure Resolving where
  before : Flags
  between : Flags
  path : String
  operand : Argument.of path = .operand path

namespace Resolving

variable (line : Resolving)

/-- The whole line, with what is behind the path. -/
def args (rest : List String) : List String :=
  line.before.args ++ "resolve" :: (line.between.args ++ line.path :: rest)

/-- The line makes sense with some more flags behind the path: no flag is given twice on one side of the
command or where it means nothing, and the path is not empty. -/
def Sensible (more : List Flag) : Prop :=
  (line.before.named.Nodup ∧ (line.between.named ++ more).Nodup ∧ Flag.explain ∉ line.before.named) ∧
    line.path ≠ ""

instance (more : List Flag) : Decidable (line.Sensible more) :=
  inferInstanceAs (Decidable ((_ ∧ _ ∧ _) ∧ _))

/-- What the line asks for, with more flags and perhaps with arguments behind the path. -/
def invocation (more : List Flag) (given : Option String) : Invocation where
  verbose := Flag.verbose ∈ line.before.named ∨ Flag.verbose ∈ line.between.named ++ more
  command := .resolve line.path given (Flag.explain ∈ line.between.named ++ more)

variable {line} {rest : List String} {more : List Flag} {given : Option String}

/-- The command and what is behind it. -/
theorem command_args (rest : List String) : flagsAndCommand (line.args rest) =
    some (line.before.named, "resolve", line.between.args ++ line.path :: rest) :=
  flagsAndCommand_append _ rfl _

private theorem operands_args (rest : List String) :
    flagsAndOperands (line.between.args ++ line.path :: rest) =
      (flagsAndOperands rest).map fun found => (line.between.named ++ found.1, line.path :: found.2) := by
  rw [flagsAndOperands_append, flagsAndOperands_operand line.operand, Option.map_map]
  rfl

/-- Of what is behind the path only the flags matter, and the operand if there is one. -/
theorem parse_args (found : flagsAndOperands rest = some (more, given.toList)) :
    Invocation.parse (line.args rest) =
      if line.Sensible more then some (line.invocation more given) else none := by
  unfold Invocation.parse
  rw [command_args]
  simp only [Option.bind_eq_bind, Option.bind_some, operands_args, found, Option.map_some]
  by_cases sides : line.before.named.Nodup ∧ (line.between.named ++ more).Nodup ∧
      Flag.explain ∉ line.before.named
  · rw [guard, if_pos sides]
    by_cases empty : line.path = ""
    · have senseless : ¬ line.Sensible more := fun sensible => sensible.2 empty
      rw [if_neg senseless, empty]
      cases given <;> rfl
    · have sensible : line.Sensible more := ⟨sides, empty⟩
      rw [if_pos sensible]
      cases given
      all_goals
        simp only [Option.toList]
        split
        · rename_i same
          exact absurd (Command.resolve.inj same).1 empty
        · rfl
  · have senseless : ¬ line.Sensible more := fun sensible => sides sensible.1
    rw [guard, if_neg sides, if_neg senseless]
    rfl

/-- An argument that is unknown spoils the line. -/
theorem parse_unknown (unread : flagsAndOperands rest = none) : Invocation.parse (line.args rest) = none := by
  unfold Invocation.parse
  rw [command_args]
  simp only [Option.bind_eq_bind, Option.bind_some, Option.bind_none, operands_args, unread, Option.map_none]

variable {m : Type → Type} [Monad m]

private theorem run_args (console : Console m) (given : Option String)
    (found : flagsAndOperands rest = some (more, given.toList)) :
    run console (line.args rest) =
      if line.Sensible more then some <$> (line.invocation more given).run console
      else return none := by
  unfold run
  rw [parse_args found]
  by_cases sensible : line.Sensible more
  · rw [if_pos sensible, if_pos sensible]
  · rw [if_neg sensible, if_neg sensible]

/-- An operand behind the path comes to the same as its text on standard input. -/
theorem run_operand (console : Console m) {rest' : List String} {document : String}
    (operand : flagsAndOperands rest = some (more, [document]))
    (nothing : flagsAndOperands rest' = some (more, [])) :
    run console (line.args rest) =
      run { console with input := pure (.ok document) } (line.args rest') := by
  rw [run_args _ (some document) operand, run_args _ none nothing]
  rfl

end Resolving

/-! ### Both channels -/

/-- The status with which the program ends, and the lines on standard output. Arguments that make no sense
end it with status two and nothing there. -/
def shown (outcome : Option Result) : Nat × List String :=
  outcome.elim (2, []) fun result => (result.status, result.lines)

/-- What makes sense does not end like what makes none. -/
theorem shown_ne (result : Result) : shown none ≠ shown (some result) := by
  intro same
  have status : 2 = result.status := congrArg Prod.fst same
  unfold Result.status at status
  split at status <;> cases status

/-- A line that resolves a call on a table shows what is said about the call. -/
theorem shown_of_stands {console : Console Id} {asked : List String} {verbose explain : Bool}
    {path source document : String} {given : Option String} {definition : Definition}
    {table : Definition.LabelTable} {args : List Value} {lines : List String}
    (parsed : Invocation.parse asked = some ⟨verbose, .resolve path given explain⟩)
    (reads : Reads console path given source document)
    (stands : Stands source document definition table args)
    (said : (reply table args explain).lines = lines) : shown (run console asked) = (0, lines) := by
  obtain ⟨events, replied⟩ := resolve_of_stands reads stands explain
  unfold run
  rw [parsed]
  dsimp only [Invocation.run]
  rw [replied, ← said]
  rfl

/-- A document comes to the same as an operand and on standard input, unless it begins with a hyphen, as only
numbers below zero do, and the rest of the line makes sense. Behind two hyphens it always does. -/
theorem channels_agree_iff (console : Console Id) (line : Resolving) (after last : Flags)
    {document : String} {json : Json} (read : Json.parse document = .ok json) :
    let piped : Console Id := { console with input := .ok document }
    let asOperand := run console (line.args (after.args ++ document :: last.args))
    let asInput := run piped (line.args (after.args ++ last.args))
    (shown asOperand = shown asInput ↔
      ¬ (document.toList.head? = some '-' ∧ line.Sensible (after.named ++ last.named))) ∧
    (document.toList.head? ≠ some '-' → asOperand = asInput) ∧
    (document.toList.head? = some '-' → asOperand = none ∧ ∃ n, json = .number n) ∧
    run console (line.args (after.args ++ ["--", document])) = run piped (line.args after.args) := by
  intro piped asOperand asInput
  have nothing : flagsAndOperands (after.args ++ last.args) = some (after.named ++ last.named, []) := by
    rw [flagsAndOperands_append, flagsAndOperands_only]
    rfl
  have plain : document.toList.head? ≠ some '-' → asOperand = asInput := by
    intro front
    refine Resolving.run_operand console ?_ nothing
    rw [flagsAndOperands_append, flagsAndOperands_operand (operand_of_front front), flagsAndOperands_only]
    rfl
  have refused : document.toList.head? = some '-' → asOperand = none := by
    intro front
    have unread : flagsAndOperands (after.args ++ document :: last.args) = none := by
      rw [flagsAndOperands_append, flagsAndOperands_unknown (unknown_of_document read front)]
      rfl
    change run console _ = none
    unfold run
    rw [Resolving.parse_unknown unread]
    rfl
  have whole : asInput = if line.Sensible (after.named ++ last.named) then
      some <$> (line.invocation (after.named ++ last.named) none).run piped else none :=
    Resolving.run_args piped none nothing
  have escaped : flagsAndOperands (after.args ++ ["--", document]) = some (after.named, [document]) := by
    rw [flagsAndOperands_append, flagsAndOperands_end]
    exact congrArg (fun flags => some (flags, [document])) (List.append_nil _)
  refine ⟨⟨?_, fun agreeable => ?_⟩, plain, fun front => ⟨refused front, ?_⟩,
    Resolving.run_operand console escaped (flagsAndOperands_only after)⟩
  · rintro same ⟨front, sensible⟩
    rw [refused front, whole, if_pos sensible] at same
    exact shown_ne _ same
  · by_cases front : document.toList.head? = some '-'
    · have senseless := not_and.mp agreeable front
      rw [refused front, whole, if_neg senseless]
    · rw [plain front]
  · exact (Json.number_of_hyphen read front).1

/-- With verdicts wanted, a number above zero may be given either way. -/
theorem positive_number_either_way :
    let source := "\x7b\"rules\":[\x7b\"schema\":[\"number\"],\"label\":\"square\"\x7d]\x7d"
    let console (input : String) : Console Id := ⟨fun _ => .ok source, .ok input⟩
    Json.parse "5" = .ok (.number (.int 5)) ∧
    run (console "") ["resolve", "table.json", "--explain", "5"] =
      run (console "5") ["resolve", "table.json", "--explain"] ∧
    shown (run (console "5") ["resolve", "table.json", "--explain"]) =
      (0, ["#0 (number) accepts", "matched #0 (number) -> \"square\""]) := by
  intro source console
  let explain : Flags := ⟨["--explain"], List.forall_mem_singleton.mpr ⟨_, rfl⟩⟩
  let noFlags : Flags := ⟨[], List.forall_mem_nil _⟩
  have number : Json.parse "5" = .ok (.number (.int 5)) := rfl
  have agrees := channels_agree_iff (console "") ⟨noFlags, noFlags, "table.json", rfl⟩ explain noFlags number
  have parsed : Definition.parse source = .ok ⟨{}, [⟨[.string "number"], "square"⟩], none⟩ := by cbv
  have stands : Stands source "5" _ ⟨{}, [⟨⟨[.tag .number false]⟩, .native "square"⟩], none⟩
      [.number (.ofInt 5)] := ⟨parsed, rfl, Definition.arguments_read number⟩
  have reads : Reads (console "5") "table.json" none source "5" := ⟨rfl, .inr ⟨rfl, rfl⟩⟩
  exact ⟨number, agrees.2.1 (by decide), shown_of_stands rfl reads stands rfl⟩

/-- The number minus five is a document, and a call with it is answered where it comes from standard input;
as an operand it makes no sense. -/
theorem negative_number_refused :
    let source := "\x7b\"rules\":[\x7b\"schema\":[\"number\"],\"label\":\"square\"\x7d]\x7d"
    let console (input : String) : Console Id := ⟨fun _ => .ok source, .ok input⟩
    Json.parse "-5" = .ok (.number (.int (-5))) ∧
    shown (run (console "") ["resolve", "table.json", "-5"]) = (2, []) ∧
    shown (run (console "-5") ["resolve", "table.json"]) =
      (0, ["matched #0 (number) -> \"square\""]) := by
  intro source console
  have number : Json.parse "-5" = .ok (.number (.int (-5))) := rfl
  have parsed : Definition.parse source = .ok ⟨{}, [⟨[.string "number"], "square"⟩], none⟩ := by cbv
  have stands : Stands source "-5" _ ⟨{}, [⟨⟨[.tag .number false]⟩, .native "square"⟩], none⟩
      [.number (.ofInt (-5))] := ⟨parsed, rfl, Definition.arguments_read number⟩
  have reads : Reads (console "-5") "table.json" none source "-5" := ⟨rfl, .inr ⟨rfl, rfl⟩⟩
  exact ⟨number, rfl, shown_of_stands rfl reads stands rfl⟩

end CommandLine

end Multimethod
