import Multimethod.Error
import Multimethod.Json.Reader
import Multimethod.Value

/-!
Values and documents. Every document is a value made of plain data. Every value has a document;
handles and instances lose their identity in it and leave a description or their fields. A text
holds the value of its document.
-/
namespace Multimethod

/-- A number in a document: as an integer where it is one that numbers tell apart, and null where
it is not finite. -/
def Double.toJson : Double → Json
  | .finite x =>
    match x.toExactInt? with
    | some n => .number (.int n)
    | none => .number (.float x)
  | _ => .null

namespace Value

mutual

/-- The document of a value. -/
def toJson : Value → Json
  | .null => .null
  | .bool b => .bool b
  | .number x => x.toJson
  | .bigint n => .string (toString n ++ "n")
  | .string text => .string text
  | .symbol s => .string ("Symbol(" ++ s.description.getD "" ++ ")")
  | .array items => .array (itemsToJson items)
  | .hash fields => .ofMembers (fieldsToJson fields)
  | .object _ fields => .ofMembers (fieldsToJson fields)
  | .regexp pattern => .string ("/" ++ pattern ++ "/")
  | .function f =>
    match f.name with
    | some name => .string ("[function " ++ name ++ "]")
    | none => .string "[function]"
  | .cls c => .string ("[class " ++ c.name ++ "]")

/-- The document of each item. -/
def itemsToJson : List Value → List Json
  | [] => []
  | item :: rest => item.toJson :: itemsToJson rest

/-- The document of what each field holds. -/
def fieldsToJson : List (String × Value) → List (String × Json)
  | [] => []
  | (key, item) :: rest => (key, item.toJson) :: fieldsToJson rest

end

/-- The items of an array have their documents one by one. -/
theorem itemsToJson_eq_map (items : List Value) : itemsToJson items = items.map toJson := by
  induction items with
  | nil => rfl
  | cons item rest ih => simp [itemsToJson, ih]

/-- Fields keep their keys in their documents. -/
theorem fieldsToJson_eq_map (fields : List (String × Value)) :
    fieldsToJson fields = fields.map fun (key, item) => (key, item.toJson) := by
  induction fields with
  | nil => rfl
  | cons field rest ih => simp [fieldsToJson, ih]

mutual

/-- The value of a document. All its numbers are doubles. -/
def ofJson : Json → Value
  | .null => .null
  | .bool b => .bool b
  | .number n => .number n.toDouble
  | .string text => .string text
  | .array items => .array (itemsOfJson items)
  | .object members => .hash (fieldsOfJson members)

/-- The value of each item. -/
def itemsOfJson : List Json → List Value
  | [] => []
  | item :: rest => ofJson item :: itemsOfJson rest

/-- The value of each member. -/
def fieldsOfJson : List (String × Json) → List (String × Value)
  | [] => []
  | (key, item) :: rest => (key, ofJson item) :: fieldsOfJson rest

end

/-- The items of an array have their values one by one. -/
theorem itemsOfJson_eq_map (items : List Json) : itemsOfJson items = items.map ofJson := by
  induction items with
  | nil => rfl
  | cons item rest ih => simp [itemsOfJson, ih]

/-- Members keep their keys as fields. -/
theorem fieldsOfJson_eq_map (members : List (String × Json)) :
    fieldsOfJson members = members.map fun (key, item) => (key, ofJson item) := by
  induction members with
  | nil => rfl
  | cons member rest ih => simp [fieldsOfJson, ih]

/-- The value that a text holds. -/
def parse (text : String) : Except Error Value := do
  return ofJson (← (Json.parse text).mapError .json)

end Value

end Multimethod
