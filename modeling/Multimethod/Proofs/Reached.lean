import Multimethod.Definition
import Multimethod.Proofs.Flatness
import Multimethod.Proofs.Registration
import Multimethod.Shared.Cell

/-!
What a program can come by: schemas that are made in one of the ways there are, tables that such
schemas are registered on, and shared tables with their snapshots. Rules are checked only where
a schema is made, yet none of these ever has a rule that is not flat: `reached_flat`.
-/
namespace Multimethod

variable {P H : Type}

open Shared (Cell Snapshot)

/-- Something that a program holds. -/
inductive Holding (P H : Type) where
  | schema (schema : Schema P)
  | table (table : Table P H)
  | shared (cell : Cell (Table P H))

/-- What a program can hold. It may start from any rules, refused ones among them, and hand on what it
has. -/
inductive Reached : Holding P H → Prop where
  | ofRules {rules : List (Rule P)} {schema : Schema P}
      (made : Schema.ofRules rules = .ok schema) : Reached (.schema schema)
  | noRules : Reached (.schema .empty)
  | ofResults {results : List (Except Error (Rule P))} {schema : Schema P}
      (made : Schema.ofResults results = .ok schema) : Reached (.schema schema)
  | ofSources {sources : List (Rule.Source P)} {schema : Schema P}
      (made : Schema.ofSources sources = .ok schema) : Reached (.schema schema)
  | ofJsonRules {documents : List Json} {schema : Schema P}
      (made : Schema.ofJsonRules documents = .ok schema) : Reached (.schema schema)
  | ofJson {document : Json} {schema : Schema P}
      (made : Schema.ofJson document = .ok schema) : Reached (.schema schema)
  /-- The schema of a binding can be registered again. -/
  | ofBinding {table : Table P H} {binding : Binding P H} (held : Reached (.table table))
      (member : binding ∈ table.bindings) : Reached (.schema binding.schema)
  | empty (config : Config) : Reached (.table (.empty config))
  /-- Of the steps only those matter that add a binding; a refused schema never gets that far. -/
  | registered {table : Table P H} {steps : List (Registration P H)} (held : Reached (.table table))
      (given : ∀ step ∈ steps, ∀ binding, step.binding? = some binding →
        Reached (.schema binding.schema)) :
      Reached (.table (table.registerAll steps).table)
  | share {table : Table P H} (held : Reached (.table table)) : Reached (.shared (.new table))
  | snapshot {cell : Cell (Table P H)} (held : Reached (.shared cell)) :
      Reached (.shared cell.snapshot.2)
  /-- The table of a snapshot, whether or not it is still the current one. -/
  | read {cell : Cell (Table P H)} {snapshot : Snapshot} {table : Table P H}
      (held : Reached (.shared cell)) (seen : cell.read? snapshot = some table) :
      Reached (.table table)
  | release {cell : Cell (Table P H)} (held : Reached (.shared cell)) (snapshot : Snapshot) :
      Reached (.shared (cell.release snapshot))
  /-- An update may put any table in place of the current one that the program can hold. -/
  | update {β : Type} {cell : Cell (Table P H)} {change : Table P H → Table P H × β}
      (held : Reached (.shared cell)) (next : Reached (.table (change cell.content).1)) :
      Reached (.shared (cell.update change).2)

/-- A table whose bindings have flat schemas only. -/
def Table.Flat (table : Table P H) : Prop :=
  ∀ binding ∈ table.bindings, binding.schema.Flat

/-- No rule in the holding fails to be flat. For a shared table that includes all of its slots. -/
def Holding.Flat : Holding P H → Prop
  | .schema made => made.Flat
  | .table held => held.Flat
  | .shared cell => ∀ table ∈ cell.slots, table.Flat

private theorem registered_flat {table : Table P H} {steps : List (Registration P H)} (flat : table.Flat)
    (given : ∀ step ∈ steps, ∀ binding, step.binding? = some binding → binding.schema.Flat) :
    (table.registerAll steps).table.Flat := by
  intro binding member
  rcases Table.mem_registerAll member with old | ⟨step, taken, added⟩
  · exact flat binding old
  · exact given step taken binding added

private theorem read_flat {cell : Cell (Table P H)} {snapshot : Snapshot} {table : Table P H}
    (flat : ∀ table ∈ cell.slots, table.Flat) (seen : cell.read? snapshot = some table) :
    table.Flat :=
  flat table (List.mem_of_getElem? seen)

private theorem update_flat {β : Type} {cell : Cell (Table P H)} {change : Table P H → Table P H × β}
    (flat : ∀ table ∈ cell.slots, table.Flat) (next : (change cell.content).1.Flat) :
    ∀ table ∈ (cell.update change).2.slots, table.Flat := by
  intro table member
  simp only [Cell.update] at member
  split at member
  · rcases List.mem_append.mp member with old | new
    · exact flat table old
    · rw [List.mem_singleton.mp new]
      exact next
  · rcases List.mem_or_eq_of_mem_set member with old | rfl
    · exact flat table old
    · exact next

/-- Everything that a program can hold is flat. -/
theorem reached_flat {holding : Holding P H} (reached : Reached holding) : holding.Flat := by
  induction reached with
  | ofRules made => exact Schema.flat_of_ofRules made
  | noRules => exact Schema.flat_empty
  | ofResults made => exact Schema.flat_of_ofResults made
  | ofSources made => exact Schema.flat_of_ofSources made
  | ofJsonRules made => exact Schema.flat_of_ofJsonRules made
  | ofJson made => exact Schema.flat_of_ofJson made
  | ofBinding held member flat => exact flat _ member
  | empty config => exact fun _ member => absurd member List.not_mem_nil
  | registered held given flat each => exact registered_flat flat each
  | share held flat => exact fun table member => List.mem_singleton.mp member ▸ flat
  | snapshot held flat => exact flat
  | read held seen flat => exact read_flat flat seen
  | release held snapshot flat => exact flat
  | update held next flat nextFlat => exact update_flat flat nextFlat

/-- The table of a definition comes about by registration, from documents of rules alone. -/
theorem built_reached {definition : Definition} {table : Definition.LabelTable}
    (built : definition.build.table = .ok table) : Reached (.table table) := by
  let entries := definition.entries.map Definition.Entry.registration
  let chain := (Table.empty definition.config).registerAll entries
  have held : Reached (.table chain.table) := by
    refine .registered (.empty definition.config) fun step among binding given => ?_
    obtain ⟨entry, -, rfl⟩ := List.mem_map.mp among
    cases made : (Schema.ofJsonRules entry.schema : Except Error (Schema Empty)) with
    | error error => simp [Definition.Entry.registration, made, Registration.binding?] at given
    | ok schema =>
      simp only [Definition.Entry.registration, made, Registration.binding?] at given
      cases given
      exact .ofJsonRules made
  have unset : chain.table.fallback = none := by
    refine Table.chain_fallback fun step among => ?_
    obtain ⟨entry, -, rfl⟩ := List.mem_map.mp among
    rfl
  have ended : table = { chain.table with fallback := definition.fallback.map .native } := by
    simp only [Definition.build] at built
    split at built
    · cases built
    · cases built
      rfl
  cases given : definition.fallback with
  | none =>
    have same : table = chain.table := by rw [ended, given, Option.map_none, ← unset]
    exact same ▸ held
  | some text =>
    have last : table = (chain.table.registerAll [.fallback text]).table := by
      rw [ended, given]
      rfl
    refine last ▸ .registered held fun step among binding added => ?_
    cases List.mem_singleton.mp among
    cases added

/-- No rule that a program can come by is a union within a union or a union without members. Rules make
a schema exactly if they are flat; otherwise the first that is not is reported. -/
theorem rules_stay_flat :
    (∀ schema : Schema P, Reached (.schema schema : Holding P H) →
      ∀ rule ∈ schema.rules, rule.Flat) ∧
    (∀ table : Table P H, Reached (.table table) →
      ∀ binding ∈ table.bindings, ∀ rule ∈ binding.schema.rules, rule.Flat) ∧
    (∀ cell : Cell (Table P H), Reached (.shared cell) →
      ∀ snapshot table, cell.read? snapshot = some table →
        ∀ binding ∈ table.bindings, ∀ rule ∈ binding.schema.rules, rule.Flat) ∧
    (∀ (definition : Definition) (table : Definition.LabelTable),
      definition.build.table = .ok table →
        ∀ binding ∈ table.bindings, ∀ rule ∈ binding.schema.rules, rule.Flat) ∧
    (∀ (rules : List (Rule P)) (schema : Schema P), Schema.ofRules rules = .ok schema ↔
      (∀ rule ∈ rules, rule.Flat) ∧ schema = ⟨rules⟩) ∧
    (∀ (rules : List (Rule P)) (error : Error), Schema.ofRules rules = .error error ↔
      ∃ before rule after, rules = before ++ rule :: after ∧ (∀ earlier ∈ before, earlier.Flat) ∧
        rule.Offends error) := by
  refine ⟨fun schema reached => reached_flat reached, fun table reached => reached_flat reached,
    fun cell reached snapshot table seen => read_flat (reached_flat reached) seen,
    fun definition table built => ?_, Schema.ofRules_ok_iff, Schema.ofRules_error_iff⟩
  exact reached_flat (built_reached built)

end Multimethod
