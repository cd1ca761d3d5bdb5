import Mathlib
import Multimethod.Proofs.Answering
import Multimethod.Proofs.PlainData

/-!
Bindings that no text reaches. The arguments that a text holds are plain data, and plain data is refused by
every rule but the wildcard, predicates, what is nullable, and the tags of plain data (`Rule.Open`). A schema
with any other rule at some position therefore accepts nothing that is read of a text, and a binding of it is
never selected: `texts_hold_plain_data`.
-/
namespace Multimethod

variable {P : Type}

/-! ### What plain data satisfies -/

/-- The tags that plain data may belong to. -/
def Tag.ofData : List Tag :=
  [.nulled, .string, .number, .boolean, .array, .hash, .object]

/-- Rules that may accept plain data, among them the unions with such a member. -/
inductive Rule.Open : Rule P → Prop where
  | wildcard : Open .wildcard
  | predicate (p : Predicate P) : Open (.predicate p)
  | nullable (t : Tag) : Open (.tag t true)
  | tag {t : Tag} (data : t ∈ Tag.ofData) (nullable : Bool) : Open (.tag t nullable)
  | union {members : List (Rule P)} {member : Rule P} (among : member ∈ members) (opened : Open member) :
      Open (.union members)

/-- A schema that is closed at some position to all plain data. -/
def Schema.Closed (schema : Schema P) : Prop :=
  ∃ rule ∈ schema.rules, ¬ rule.Open

private theorem Tag.data_of_accepts {t : Tag} {value : Value} (datum : value.Datum)
    (belongs : t.accepts value = true) :
    t ∈ Tag.ofData := by
  cases datum <;> cases t <;> first | decide | cases belongs

namespace Rule

mutual

/-- Any other rule refuses plain data, and nobody is asked. -/
theorem accepts_of_closed {m : Type → Type} [Monad m] [LawfulMonad m] (test : P → Value → m Bool)
    {value : Value} (datum : value.Datum) : (rule : Rule P) → ¬ rule.Open → rule.accepts test value = pure false
  | .tag t nullable, closed => by
    have plain : nullable = false := Bool.eq_false_iff.mpr fun marked => closed (marked ▸ .nullable t)
    have foreign : t.accepts value = false :=
      Bool.eq_false_iff.mpr fun belongs => closed (.tag (Tag.data_of_accepts datum belongs) nullable)
    simp only [accepts, plain, foreign, Bool.false_and, Bool.or_false]
  | .wildcard, closed => absurd .wildcard closed
  | .cls c, _ => by
    have foreign : value.isInstanceOf c = false := by cases datum <;> rfl
    rw [accepts, foreign]
  | .predicate p, closed => absurd (.predicate p) closed
  | .union members, closed => by
    rw [accepts]
    exact anyAccepts_of_closed test datum members fun member among opened => closed (.union among opened)

private theorem anyAccepts_of_closed {m : Type → Type} [Monad m] [LawfulMonad m] (test : P → Value → m Bool)
    {value : Value} (datum : value.Datum) : (rules : List (Rule P)) → (∀ rule ∈ rules, ¬ rule.Open) →
      anyAccepts test rules value = pure false
  | [], _ => by rw [anyAccepts]
  | rule :: rest, closed => by
    obtain ⟨first, others⟩ := List.forall_mem_cons.mp closed
    rw [anyAccepts, accepts_of_closed test datum rule first, pure_bind, if_neg Bool.false_ne_true]
    exact anyAccepts_of_closed test datum rest others

end

end Rule

namespace Schema

variable {m : Type → Type} [Monad m] [LawfulMonad m]

/-- Whatever the rules are asked, the answer is no. -/
theorem eachAccepts_of_closed (test : P → Value → m Bool) {rules : List (Rule P)}
    (closed : ∃ rule ∈ rules, ¬ rule.Open) {args : List Value}
    (data : ∀ position, (argumentAt args position).Datum) :
    eachAccepts test rules args = (fun _ => false) <$> eachAccepts test rules args := by
  induction rules generalizing args with
  | nil =>
    obtain ⟨rule, among, -⟩ := closed
    cases among
  | cons rule rest ih =>
    rw [eachAccepts, head_eq_argumentAt]
    rcases List.or_exists_of_exists_mem_cons closed with first | later
    · rw [Rule.accepts_of_closed test (data 0) rule first, pure_bind, if_neg Bool.false_ne_true, map_pure]
    · rw [map_bind]
      congr 1
      funext accepted
      cases accepted with
      | false => exact (map_pure (fun _ => false) false).symm
      | true =>
        refine ih later fun position => ?_
        rw [argumentAt_tail]
        exact data (position + 1)

private theorem accepts_of_closed (test : P → Value → m Bool) {schema : Schema P} (closed : schema.Closed)
    {args : List Value} (data : ∀ position, (argumentAt args position).Datum) :
    schema.accepts test args = (fun _ => false) <$> schema.accepts test args := by
  rw [accepts_eq_each]
  split
  · exact eachAccepts_of_closed test closed data
  · exact (map_pure (fun _ => false) false).symm

end Schema

/-! ### Arguments from texts -/

/-- What stands at a position of a call is plain data if all its arguments are; an absent one is null. -/
theorem datum_argumentAt {args : List Value} {documents : List Json}
    (read : List.Forall₂ Json.ReadFrom args documents) (position : Nat) :
    (argumentAt args position).Datum := by
  rw [argumentAt, List.getD_eq_getElem?_getD]
  cases standing : args[position]? with
  | none => exact .null
  | some argument =>
    obtain ⟨document, -, reads⟩ := Definition.partner read standing
    exact reads.data.here

namespace Table

/-- No binding is matched that rejects the call. -/
theorem index_ne_of_rejected {H σ : Type} (host : Host P H (StateM σ)) {answer : P → Value → Bool}
    {table : Table P H} {args : List Value} {index : Nat} {binding : Binding P H}
    (standing : table.bindings[index]? = some binding)
    (rejected : (binding.schema.accepts (m := Id) answer args).run = false) (state : σ) :
    ((table.resolve (host.withAnswers answer) args).run state).1.index? ≠ some index := by
  rw [resolve_index, Table.search_without_effects]
  have finds := Table.firstAccepting_finds answer table args
  intro found
  obtain ⟨⟨_, other⟩, same, rfl⟩ := Option.map_eq_some_iff.mp found
  rw [same] at finds
  obtain ⟨there, admits, -⟩ := finds
  cases standing.symm.trans there
  rw [(accepts_iff_admits answer _ args).mpr admits] at rejected
  cases rejected

end Table

namespace Definition

variable {source text : String} {table : LabelTable} {index : Nat} {binding : Binding Empty String}

/-- The verdict on a binding of a definition is whether its schema accepts the arguments. -/
theorem verdict_read (loaded : load source = .ok table) {args : List Value}
    (supplied : Arguments.parse text = .ok args) (standing : table.bindings[index]? = some binding) :
    ∃ all, verdicts source text = .ok all ∧
      all[index]? = some (Table.verdictOn noPredicates args index binding) := by
  refine ⟨table.bindings.mapIdx (Table.verdictOn noPredicates args), ?_, ?_⟩
  · rw [← verdicts_in_order table args []]
    unfold verdicts
    rw [loaded, supplied]
    rfl
  · rw [List.getElem?_mapIdx, standing, Option.map_some]

end Definition

/-- All that a text holds is plain data, and null only where the text says so. A binding that is closed
to plain data at some position is never selected for such arguments on the table of a definition. -/
theorem texts_hold_plain_data (text : String) :
    (∀ value, Value.parse text = .ok value →
      ∃ document, Json.Holds text document ∧ Json.ReadFrom value document) ∧
    (∀ document, Json.Holds text document → ∀ path inner, document.at? path = some inner →
      ∃ part, part <:+: text.toList ∧ Json.Reader.Denotes part inner ∧
        (inner = .null ↔ part = ['n', 'u', 'l', 'l'])) ∧
    ∀ args, Arguments.parse text = .ok args →
      (∃ document, Json.Holds text document ∧ List.Forall₂ Json.ReadFrom args document.arguments) ∧
      (∀ {P : Type} {m : Type → Type} [Monad m] [LawfulMonad m] (test : P → Value → m Bool)
        (schema : Schema P), schema.Closed →
          schema.accepts test args = (fun _ => false) <$> schema.accepts test args) ∧
      ∀ source table index binding, Definition.load source = .ok table →
        table.bindings[index]? = some binding → binding.schema.Closed →
          (∀ log, ((table.resolve Definition.host args).run log).1.index? ≠ some index) ∧
          ∃ verdicts, Definition.verdicts source text = .ok verdicts ∧
            verdicts[index]? = some ⟨index, binding.schema.display, false⟩ := by
  refine ⟨fun value read => ?_, fun document holds path inner held => ?_, fun args read => ?_⟩
  · obtain ⟨document, holds, -, rfl⟩ := parse_value_iff.mp read
    exact ⟨document, holds, (readFrom_of_holds holds).1⟩
  · obtain ⟨before, written, after, -, -, parts, denotes⟩ := holds
    obtain ⟨part, within, denoted⟩ := Json.Reader.part_of_denotes denotes held
    refine ⟨part, within.trans ⟨before, after, parts.symm⟩, denoted, ?_⟩
    exact Json.Reader.denotes_null_iff denoted
  · obtain ⟨document, holds, -, rfl⟩ := parse_arguments_iff.mp read
    have reads := (readFrom_of_holds holds).2
    have data := datum_argumentAt reads
    refine ⟨⟨document, holds, reads⟩, fun test schema closed => Schema.accepts_of_closed test closed data, ?_⟩
    intro source table index binding loaded standing closed
    have rejected : (binding.schema.accepts (m := Id) Definition.noPredicates
        (document.arguments.map Json.toValue)).run = false :=
      congrArg Id.run (Schema.accepts_of_closed (m := Id) Definition.noPredicates closed data)
    constructor
    · have unmatched := Table.index_ne_of_rejected Definition.host standing rejected
      rwa [Definition.host_without_predicates] at unmatched
    · obtain ⟨verdicts, judged, verdict⟩ := Definition.verdict_read loaded read standing
      refine ⟨verdicts, judged, ?_⟩
      rw [verdict, Table.verdictOn, rejected]

/-- No text holds a symbol, so a binding for symbols is never selected. -/
theorem symbols_never_selected :
    let source := "\x7b\"rules\":[\x7b\"schema\":[\"symbol\"],\"label\":\"a\"\x7d]\x7d"
    let table : Definition.LabelTable := ⟨{}, [⟨⟨[.tag .symbol false]⟩, .native "a"⟩], none⟩
    Definition.load source = .ok table ∧ Arguments.parse "[null]" = .ok [.null] ∧
    (∀ log, ((table.resolve Definition.host [.null]).run log).1.index? ≠ some 0) ∧
    ∃ verdicts, Definition.verdicts source "[null]" = .ok verdicts ∧
      verdicts[0]? = some ⟨0, "(symbol)", false⟩ := by
  intro source table
  have loaded : Definition.load source = .ok table := by cbv
  have supplied : Arguments.parse "[null]" = .ok [.null] := by cbv
  have closed : (⟨[.tag .symbol false]⟩ : Schema Empty).Closed := by
    refine ⟨.tag .symbol false, List.mem_singleton_self _, fun opened => ?_⟩
    cases opened with
    | tag data => exact absurd data (by decide)
  have dead := ((texts_hold_plain_data "[null]").2.2 _ supplied).2.2 source table 0 _ loaded rfl closed
  exact ⟨loaded, supplied, dead⟩

end Multimethod
