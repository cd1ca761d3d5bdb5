import Multimethod.Double
import Multimethod.Fields
import Multimethod.Identity

/-!
The dynamic values that calls pass: plain data, handles, and instances of classes.
-/
namespace Multimethod

/-- A value. An absent argument and an explicit null are both `null`. -/
inductive Value where
  | null
  | bool (b : Bool)
  | number (x : Double)
  | bigint (n : Int)
  | string (text : String)
  | symbol (symbol : Symbol)
  | array (items : List Value)
  /-- Keyed fields that belong to no class. -/
  | hash (fields : List (String × Value))
  /-- An instance of a class with its fields. -/
  | object (cls : Class) (fields : List (String × Value))
  /-- A regular expression, known by its pattern. -/
  | regexp (pattern : String)
  | function (function : Function)
  | cls (cls : Class)

namespace Value

instance : Inhabited Value := ⟨.null⟩

/-- Whether a value is null. -/
def isNull : Value → Bool
  | .null => true
  | _ => false

/-- Functions and classes can be called. -/
def isCallable : Value → Bool
  | .function _ => true
  | .cls _ => true
  | _ => false

/-- Whether a value is an instance of a class or of one of its subclasses. A class is no instance
of itself. -/
def isInstanceOf (value : Value) (cls : Class) : Bool :=
  match value with
  | .object own _ => own.isSubclassOf cls
  | _ => false

/-- The name of a value's kind in diagnostics. -/
def kind : Value → String
  | .null => "null"
  | .bool _ => "boolean"
  | .number _ => "number"
  | .bigint _ => "bigint"
  | .string _ => "string"
  | .symbol _ => "symbol"
  | .array _ => "array"
  | .hash _ => "hash"
  | .object _ _ => "object"
  | .regexp _ => "regexp"
  | .function _ => "function"
  | .cls _ => "class"

/-! ### Views -/

/-- The number, where the value is one. -/
def number? : Value → Option Double
  | .number x => some x
  | _ => none

/-- The truth value, where the value is one. -/
def bool? : Value → Option Bool
  | .bool b => some b
  | _ => none

/-- The text, where the value is one. -/
def string? : Value → Option String
  | .string text => some text
  | _ => none

/-- The items, where the value is an array. -/
def array? : Value → Option (List Value)
  | .array items => some items
  | _ => none

/-- The fields of a hash or an instance. -/
def fields? : Value → Option (Fields Value)
  | .hash fields => some fields
  | .object _ fields => some fields
  | _ => none

/-! ### Plain data as values -/

/-- The number nearest to an integer. -/
def ofInt (n : Int) : Value := .number (.ofInt n)

/-- An absent item is null. -/
def ofOption : Option Value → Value
  | none => .null
  | some value => value

/-- The fields of a value, built by inserting the pairs in turn. -/
def hashOf (entries : List (String × Value)) : Value := .hash (Fields.ofList entries)

/-! ### Distinct keys -/

mutual

/-- No fields anywhere in the value name a key twice. All operations of the library make such
values only. -/
def WellFormed : Value → Prop
  | .array items => AllWellFormed items
  | .hash fields => Fields.Distinct fields ∧ FieldsWellFormed fields
  | .object _ fields => Fields.Distinct fields ∧ FieldsWellFormed fields
  | _ => True

/-- `WellFormed` for each item. -/
def AllWellFormed : List Value → Prop
  | [] => True
  | item :: rest => item.WellFormed ∧ AllWellFormed rest

/-- `WellFormed` for what each field holds. -/
def FieldsWellFormed : List (String × Value) → Prop
  | [] => True
  | (_, item) :: rest => item.WellFormed ∧ FieldsWellFormed rest

end

/-! ### Equality -/

mutual

/-- Equality of values. Numbers are compared as numbers, handles by identity, fields without
regard to order; an instance equals only instances of the same class. -/
protected def beq : Value → Value → Bool
  | .null, .null => true
  | .bool a, .bool b => a == b
  | .number x, .number y => x == y
  | .bigint m, .bigint n => m == n
  | .string s, .string t => s == t
  | .symbol s, .symbol t => s == t
  | .array xs, .array ys => itemsEqual xs ys
  | .hash xs, .hash ys => xs.length == ys.length && fieldsWithin xs ys
  | .object c xs, .object d ys => c == d && (xs.length == ys.length && fieldsWithin xs ys)
  | .regexp s, .regexp t => s == t
  | .function f, .function g => f == g
  | .cls c, .cls d => c == d
  | _, _ => false

/-- Equality item by item. -/
def itemsEqual : List Value → List Value → Bool
  | [], [] => true
  | x :: xs, y :: ys => x.beq y && itemsEqual xs ys
  | _, _ => false

/-- Whether each field has an equal one under its key among `others`. -/
def fieldsWithin : List (String × Value) → Fields Value → Bool
  | [], _ => true
  | (key, x) :: rest, others =>
    (match others.get? key with
     | some y => x.beq y
     | none => false) && fieldsWithin rest others

end

instance : BEq Value := ⟨Value.beq⟩

end Value

end Multimethod
