import Multimethod.Decimal.Layout
import Multimethod.Text.Quoted
import Multimethod.Value

/-!
Values as diagnostics show them: every value with the name of its kind around what it holds.
-/
namespace Multimethod

/-- In diagnostics a number has a point from one ten-thousandth up to sixteen digits before the
point, and an exponent without a plus sign beyond; a tie goes away from zero. -/
def inspectLayout : Decimal.Layout := ⟨.awayFromZero, -4, 16, false⟩

/-- A number as diagnostics show it. -/
def Double.inspect : Double → String
  | .nan => "NaN"
  | .infinite negative => if negative then "-inf" else "inf"
  | .finite x => String.ofList (inspectLayout.write x)

/-- A symbol as diagnostics show it, with its identity. -/
def Symbol.inspect (symbol : Symbol) : String :=
  let description :=
    match symbol.description with
    | none => "None"
    | some text => "Some(" ++ Text.quoted text ++ ")"
  "Symbol \x7b id: " ++ toString symbol.id ++ ", description: " ++ description ++ " \x7d"

namespace Value

/-- The name of a kind around what a value of it holds. -/
def labelled (label content : String) : String :=
  label ++ "(" ++ content ++ ")"

/-- Parts between brackets, separated by commas. -/
def listed (parts : List String) : String :=
  "[" ++ ", ".intercalate parts ++ "]"

/-- Parts between braces, separated by commas. -/
def braced (parts : List String) : String :=
  "\x7b" ++ ", ".intercalate parts ++ "\x7d"

mutual

/-- A value as diagnostics show it. -/
def inspect : Value → String
  | .null => "Null"
  | .bool b => labelled "Bool" (if b then "true" else "false")
  | .number x => labelled "Number" x.inspect
  | .bigint n => labelled "BigInt" (toString n)
  | .string text => labelled "String" (Text.quoted text)
  | .symbol s => labelled "Symbol" s.inspect
  | .array items => labelled "Array" (listed (inspectItems items))
  | .hash fields => labelled "Hash" (braced (inspectFields fields))
  | .object owner fields =>
    labelled "Object" ("Instance \x7b class: " ++ owner.inspect ++ ", fields: " ++
      braced (inspectFields fields) ++ " \x7d")
  | .regexp pattern => labelled "Regexp" (labelled "Regex" (Text.quoted pattern))
  | .function f => labelled "Function" f.inspect
  | .cls c => labelled "Class" c.inspect

/-- `inspect` for each item. -/
def inspectItems : List Value → List String
  | [] => []
  | item :: rest => item.inspect :: inspectItems rest

/-- `inspect` for what each field holds, after its quoted key. -/
def inspectFields : List (String × Value) → List String
  | [] => []
  | (key, item) :: rest => (Text.quoted key ++ ": " ++ item.inspect) :: inspectFields rest

end

end Value

end Multimethod
