import Multimethod.Json.Record
import Multimethod.Table.Resolve

/-!
Table definitions: tables written down as documents. Each rule of a definition has a label, which
its handler returns; the fallback of a definition is a text, which it returns.
-/
namespace Multimethod

/-- One binding of a definition. -/
structure Definition.Entry where
  /-- The documents of the rules of its schema. -/
  schema : List Json
  label : String

/-- A table as it is written down. -/
structure Definition where
  config : Config := {}
  entries : List Definition.Entry := []
  fallback : Option String := none

namespace Definition

/-! ### Reading -/

/-- The fields of an entry found so far. -/
structure Entry.Draft where
  schema : Option (List Json) := none
  label : Option String := none

/-- The fields of a definition found so far. -/
structure Draft where
  config : Option Config := none
  entries : Option (List Entry) := none
  fallback : Option (Option String) := none

open Json in
/-- An entry in a document. Neither field has a default. The documents of its schema stand inside
four arrays and objects: the definition, its rules, the entry and the schema. -/
def Entry.record : Json.Record Entry.Draft Entry where
  name := "RuleSpec"
  fields := [
    ⟨"schema", (·.schema.isSome), fun draft => return { draft with
      schema := some (← Reader.listOf (Reader.value (depthLimit - 4))) }⟩,
    ⟨"label", (·.label.isSome), fun draft => return { draft with
      label := some (← Reader.stringValue) }⟩]
  start := {}
  finish draft := do return ⟨← draft.schema, ← draft.label⟩

open Json in
/-- A definition in a document. A field that is not there has its default. -/
def record : Json.Record Draft Definition where
  name := "TableSpec"
  fields := [
    ⟨"config", (·.config.isSome), fun draft => return { draft with
      config := some (← Reader.record Config.record) }⟩,
    ⟨"rules", (·.entries.isSome), fun draft => return { draft with
      entries := some (← Reader.listOf (Reader.record Entry.record)) }⟩,
    ⟨"fallback", (·.fallback.isSome), fun draft => return { draft with
      fallback := some (← Reader.orNull Reader.stringValue) }⟩]
  start := {}
  finish draft := some ⟨draft.config.getD {}, draft.entries.getD [], draft.fallback.getD none⟩

/-- The definition that a text holds. -/
def parse (text : String) : Except Json.Fault Definition :=
  (Json.Reader.record record).whole text

/-! ### Writing -/

/-- The document of an entry. -/
def Entry.toJson (entry : Entry) : Json :=
  .object [("schema", .array entry.schema), ("label", .string entry.label)]

/-- The document of a definition, with all fields in order. -/
def toJson (definition : Definition) : Json :=
  .object [
    ("config", definition.config.toJson),
    ("rules", .array (definition.entries.map Entry.toJson)),
    ("fallback", definition.fallback.elim .null .string)]

/-! ### Building -/

/-- A table from a definition: it has no predicates, and its handlers are the texts they return. -/
abbrev LabelTable := Table Empty String

/-- The registration of an entry. -/
def Entry.registration (entry : Entry) : Registration Empty String :=
  .rule (Schema.ofJsonRules entry.schema) entry.label

/-- What building a table leaves behind: the events, and the table or why an entry is refused. -/
structure Build where
  events : List Event
  table : Except Error LabelTable

/-- Builds the table of a definition: its entries in order, then its fallback. The first entry that
is refused ends it. -/
def build (definition : Definition) : Build :=
  let entries := definition.entries.map Entry.registration
  let after := (Table.empty definition.config).registerAll entries
  match after.error with
  | some error => ⟨after.events, .error error⟩
  | none =>
    let table := { after.table with fallback := definition.fallback.map .native }
    ⟨after.events ++ [.built table.config.name table.length table.hasFallback], .ok table⟩

/-- Handlers return their texts and events are kept in order. Function values never handle a call,
since a definition has none. -/
def host : Host Empty String (StateM (List Event)) where
  test impossible := nomatch impossible
  run label _ := return .string label
  call _ _ := return .null
  emit event := modify (· ++ [event])

end Definition

end Multimethod
