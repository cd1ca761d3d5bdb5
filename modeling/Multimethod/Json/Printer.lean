import Multimethod.Decimal.Layout
import Multimethod.Json

/-!
Documents as text. The compact form has no blanks at all; the indented form puts each member on a
line of its own. In strings only quotes, backslashes and control characters are escaped.
-/
namespace Multimethod.Json

/-- In documents a number has a point from one hundred-thousandth up to sixteen digits before the
point, and a signed exponent beyond; a tie goes to the even digit. -/
def numberLayout : Decimal.Layout := ⟨.toEven, -5, 16, true⟩

/-- A number in a document. -/
def Number.chars : Number → List Char
  | .int n => Decimal.intText n
  | .float x => numberLayout.write x

/-- One hexadecimal digit, lower case. -/
def hexDigit (n : Nat) : Char :=
  Nat.digitChar (n % 16)

/-- One character inside a string. -/
def escapeChar (c : Char) : List Char :=
  match c with
  | '"' => ['\\', '"']
  | '\\' => ['\\', '\\']
  | '\x08' => ['\\', 'b']
  | '\t' => ['\\', 't']
  | '\n' => ['\\', 'n']
  | '\x0c' => ['\\', 'f']
  | '\r' => ['\\', 'r']
  | c => if c.toNat < 32 then ['\\', 'u', '0', '0', hexDigit (c.toNat / 16), hexDigit c.toNat] else [c]

/-- A string with its quotes. -/
def stringChars (text : String) : List Char :=
  '"' :: (text.toList.flatMap escapeChar ++ ['"'])

/-- A truth value. -/
def boolChars (b : Bool) : List Char :=
  if b then ['t', 'r', 'u', 'e'] else ['f', 'a', 'l', 's', 'e']

/-- Parts with a comma between each two. -/
def joinComma : List (List Char) → List Char
  | [] => []
  | [part] => part
  | part :: rest => part ++ ',' :: joinComma rest

mutual

/-- The compact form of a document. -/
def chars : Json → List Char
  | .null => ['n', 'u', 'l', 'l']
  | .bool b => boolChars b
  | .number n => n.chars
  | .string text => stringChars text
  | .array items => '[' :: (joinComma (itemChars items) ++ [']'])
  | .object members => '\x7b' :: (joinComma (memberChars members) ++ ['\x7d'])

/-- The compact form of each item. -/
def itemChars : List Json → List (List Char)
  | [] => []
  | item :: rest => item.chars :: itemChars rest

/-- The compact form of each member, its key before a colon. -/
def memberChars : List (String × Json) → List (List Char)
  | [] => []
  | (key, item) :: rest => (stringChars key ++ ':' :: item.chars) :: memberChars rest

end

/-- The items of an array are printed one by one. -/
theorem itemChars_eq_map (items : List Json) : itemChars items = items.map chars := by
  induction items with
  | nil => rfl
  | cons item rest ih => simp [itemChars, ih]

/-- The members of an object are printed one by one. -/
theorem memberChars_eq_map (members : List (String × Json)) :
    memberChars members = members.map fun (key, item) => stringChars key ++ ':' :: item.chars := by
  induction members with
  | nil => rfl
  | cons member rest ih => simp [memberChars, ih]

/-- The compact text of a document. -/
def compact (json : Json) : String :=
  String.ofList json.chars

/-- A line break and the indentation of a depth, two blanks for each level. -/
def lineBreak (depth : Nat) : List Char :=
  '\n' :: List.replicate (2 * depth) ' '

/-- Parts on lines of their own inside a pair of brackets; no lines for no parts. -/
def onLines (opening closing : Char) (depth : Nat) (parts : List (List Char)) : List Char :=
  match parts with
  | [] => [opening, closing]
  | parts =>
    let lines := parts.map fun part => lineBreak (depth + 1) ++ part
    opening :: (joinComma lines ++ lineBreak depth ++ [closing])

mutual

/-- The indented form of a document that stands at a depth. -/
def indentedChars (depth : Nat) : Json → List Char
  | .array items => onLines '[' ']' depth (indentedItems (depth + 1) items)
  | .object members => onLines '\x7b' '\x7d' depth (indentedMembers (depth + 1) members)
  | .null => chars .null
  | .bool b => chars (.bool b)
  | .number n => chars (.number n)
  | .string text => chars (.string text)

/-- The indented form of each item. -/
def indentedItems (depth : Nat) : List Json → List (List Char)
  | [] => []
  | item :: rest => indentedChars depth item :: indentedItems depth rest

/-- The indented form of each member, its key before a colon and a blank. -/
def indentedMembers (depth : Nat) : List (String × Json) → List (List Char)
  | [] => []
  | (key, item) :: rest =>
    (stringChars key ++ ':' :: ' ' :: indentedChars depth item) :: indentedMembers depth rest

end

/-- The indented text of a document. -/
def indented (json : Json) : String :=
  String.ofList (json.indentedChars 0)

end Multimethod.Json
