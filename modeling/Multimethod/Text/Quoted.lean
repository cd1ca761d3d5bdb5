import Multimethod.Text.Invisible

/-!
Text in double quotes as diagnostics show it: every character that would be ambiguous or
invisible between the quotes is written as an escape.
-/
namespace Multimethod.Text

/-- The hexadecimal digits of a code point, lower case, without leading zeros. -/
def hexText (n : Nat) : String :=
  String.ofList (Nat.toDigits 16 n)

/-- One character between the quotes. -/
def escaped (c : Char) : String :=
  match c with
  | '"' => "\\\""
  | '\\' => "\\\\"
  | '\n' => "\\n"
  | '\r' => "\\r"
  | '\t' => "\\t"
  | '\x00' => "\\0"
  | c => if isInvisible c then "\\u\x7b" ++ hexText c.toNat ++ "\x7d" else c.toString

/-- A text in double quotes, on one line, with nothing invisible in it. -/
def quoted (text : String) : String :=
  "\"" ++ String.join (text.toList.map escaped) ++ "\""

end Multimethod.Text
