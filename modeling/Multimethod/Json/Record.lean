import Multimethod.Json.Reader

/-!
Records in documents. A record is written as an object, with its fields in any order among other
members, or as an array of its fields in order. Each kind of record is described once, by a
`Record`, and read in both forms from that description.
-/
namespace Multimethod.Json

/-- One field of a record that is being read. `σ` collects the fields found so far. -/
structure Field (σ : Type) where
  name : String
  /-- Whether the field has been found. -/
  found : σ → Bool
  /-- Reads the field. -/
  read : σ → Reader σ

/-- A kind of record. -/
structure Record (σ α : Type) where
  /-- The name of the kind in messages. -/
  name : String
  /-- The fields in the order of the array form. -/
  fields : List (Field σ)
  /-- No field has been found yet. -/
  start : σ
  /-- The record, unless a field is missing that has no default. -/
  finish : σ → Option α

namespace Reader

/-- Reports that the document that comes next is not of the kind asked for. A scalar is read first,
and its own fault comes before the report. -/
def refuse {α : Type} (expected : Expected) : Reader α := do
  let first ← upcoming
  let found ←
    if first = '[' then pure (.array [])
    else if first = '\x7b' then pure (.object [])
    else scalar first
  throw (.mismatch (.wrongKind found expected))

/-- A string. -/
def stringValue : Reader String := do
  if (← upcoming) = '"' then string else refuse .string

/-- A truth value. -/
def boolValue : Reader Bool := do
  match ← upcoming with
  | 't' =>
    word (boolChars true)
    return true
  | 'f' =>
    word (boolChars false)
    return false
  | _ => refuse .boolean

/-- A null, or what the reader reads. -/
def orNull {α : Type} (reader : Reader α) : Reader (Option α) := do
  if (← upcoming) = 'n' then
    word ['n', 'u', 'l', 'l']
    return none
  else
    return some (← reader)

/-- An array of items of one kind. -/
def listOf {α : Type} (item : Reader α) : Reader (List α) := do
  if (← upcoming) = '[' then array item else refuse .sequence

/-- Reads fields in order for as long as items follow. -/
def fieldsInOrder {σ : Type} (fields : List (Field σ)) (first : Bool) (soFar : σ) : Reader σ := do
  match fields with
  | [] => return soFar
  | field :: rest =>
    if ← itemFollows ']' (· != ']') first then
      fieldsInOrder rest false (← field.read soFar)
    else return soFar

/-- One member of a record in its object form: a field that has not been found yet, or a member of
another name, which is passed over. -/
def recordMember {σ : Type} (fields : List (Field σ)) (key : String) (soFar : σ) : Reader σ := do
  match fields.find? fun field => field.name == key with
  | some field =>
    if field.found soFar then throw (.mismatch (.duplicateField key))
    mark ':'
    field.read soFar
  | none =>
    mark ':'
    ignored
    return soFar

/-- The record that has been found, or the report of its first missing field. -/
def finished {σ α : Type} (kind : Record σ α) (soFar : σ) (report : Field σ → Mismatch) :
    Reader α :=
  match kind.finish soFar, kind.fields.find? fun field => !field.found soFar with
  | some result, _ => return result
  | none, some field => throw (.mismatch (report field))
  | none, none => throw .malformed

/-- A record in either form. -/
def record {σ α : Type} (kind : Record σ α) : Reader α := do
  let first ← upcoming
  if first = '[' then
    one '['
    let soFar ← fieldsInOrder kind.fields true kind.start
    let count := (kind.fields.takeWhile fun field => field.found soFar).length
    let result ← finished kind soFar fun _ => .tooShort count kind.name kind.fields.length
    mark ']'
    return result
  else if first = '\x7b' then
    let soFar ← objectMembers (recordMember kind.fields) kind.start
    finished kind soFar fun field => .missingField field.name
  else refuse (.record kind.name)

end Reader

end Multimethod.Json
