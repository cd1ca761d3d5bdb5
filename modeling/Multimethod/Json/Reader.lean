import Multimethod.Json.Fault

/-!
Reading documents. A reader takes characters off the front of a text or reports a fault; it never
goes back. Blanks may stand between any two parts, and only between them.
-/
namespace Multimethod.Json

/-- A step of reading: the state is the text still to be read. -/
abbrev Reader (α : Type) := StateT (List Char) (Except Fault) α

/-- Arrays and objects may be nested this deep in one another. -/
def depthLimit : Nat := 127

namespace Reader

/-- The four blank characters of the grammar. -/
def isBlank (c : Char) : Bool :=
  c == ' ' || c == '\t' || c == '\n' || c == '\r'

/-- Takes the next character. -/
def take : Reader Char := do
  match ← get with
  | [] => throw .truncated
  | c :: rest =>
    set rest
    return c

/-- The next character that is not blank, which stays unread. -/
def upcoming : Reader Char := do
  modify (·.dropWhile isBlank)
  match ← get with
  | [] => throw .truncated
  | c :: _ => return c

/-- Takes one given character. -/
def one (wanted : Char) : Reader Unit := do
  unless (← take) = wanted do throw .malformed

/-- Takes the given characters. -/
def word (wanted : List Char) : Reader Unit :=
  wanted.forM one

/-- Takes the next character if it is wanted, and says whether it was. -/
def accept (wanted : Char → Bool) : Reader Bool := do
  match ← get with
  | c :: rest => if wanted c then set rest; return true else return false
  | [] => return false

/-- Takes one given character after blanks. -/
def mark (wanted : Char) : Reader Unit := do
  unless (← upcoming) = wanted do throw .malformed
  one wanted

/-! ### Strings -/

/-- The value of a hexadecimal digit of either case. -/
def hexValue? (c : Char) : Option Nat :=
  if '0' ≤ c ∧ c ≤ '9' then some (c.toNat - '0'.toNat)
  else if 'a' ≤ c ∧ c ≤ 'f' then some (c.toNat - 'a'.toNat + 10)
  else if 'A' ≤ c ∧ c ≤ 'F' then some (c.toNat - 'A'.toNat + 10)
  else none

/-- Four hexadecimal digits. Whether the text is long enough for them is counted in bytes. -/
def codeUnit : Reader Nat := do
  let digits := (← get).take 4
  if digits.foldl (fun size c => size + c.utf8Size) 0 < 4 then throw .truncated
  match digits.mapM hexValue? with
  | some values =>
    modify (·.drop 4)
    return values.foldl (fun n digit => n * 16 + digit) 0
  | none => throw .malformed

/-- The character of one code unit or of two that form a pair; half a pair is malformed. -/
def pairedCode : Reader Char := do
  let unit ← codeUnit
  if 0xDC00 ≤ unit ∧ unit ≤ 0xDFFF then throw .malformed
  if 0xD800 ≤ unit ∧ unit ≤ 0xDBFF then
    word ['\\', 'u']
    let second ← codeUnit
    unless 0xDC00 ≤ second ∧ second ≤ 0xDFFF do throw .malformed
    return Char.ofNat ((unit - 0xD800) * 0x400 + (second - 0xDC00) + 0x10000)
  return Char.ofNat unit

/-- The character of one code unit, paired or not. -/
def unpairedCode : Reader Char := do
  return Char.ofNat (← codeUnit)

/-- One character between quotes, or none at the closing quote. `code` reads what follows the mark
of a code unit. -/
def stringUnit (code : Reader Char) : Reader (Option Char) := do
  match ← take with
  | '"' => return none
  | '\\' =>
    match ← take with
    | '"' => return '"'
    | '\\' => return '\\'
    | '/' => return '/'
    | 'b' => return '\x08'
    | 'f' => return '\x0c'
    | 'n' => return '\n'
    | 'r' => return '\r'
    | 't' => return '\t'
    | 'u' => return some (← code)
    | _ => throw .malformed
  | c => if c.toNat < 32 then throw .malformed else return c

/-- The characters up to the closing quote. Each takes at least one off the text, so a bound of the
text's length is never reached. -/
def stringUnits (code : Reader Char) : Nat → Reader (List Char)
  | 0 => throw .truncated
  | bound + 1 => do
    match ← stringUnit code with
    | none => return []
    | some c => return c :: (← stringUnits code bound)

/-- A string with its quotes. -/
def stringOf (code : Reader Char) : Reader String := do
  one '"'
  return String.ofList (← stringUnits code (← get).length)

/-- A string whose code units are whole characters. -/
def string : Reader String :=
  stringOf pairedCode

/-! ### Numbers -/

/-- A number as it is written. -/
structure NumberText where
  negative : Bool
  whole : List Nat
  fraction : Option (List Nat)
  exponent : Option Int
deriving DecidableEq

/-- One or more digits; `atEnd` is the fault of a text that ends instead. -/
def digits (atEnd : Fault) : Reader (List Nat) := do
  let text ← get
  let taken := text.takeWhile Char.isDigit
  if taken.isEmpty then
    throw (if text.isEmpty then atEnd else .malformed)
  set (text.dropWhile Char.isDigit)
  return taken.map fun c => c.toNat - '0'.toNat

/-- A number: a whole part without leading zeros, then perhaps a fraction, then perhaps a power of
ten. -/
def numberText (atEnd : Fault) : Reader NumberText := do
  let negative ← accept (· == '-')
  let whole ← digits atEnd
  if whole.head? = some 0 ∧ whole.length ≠ 1 then throw .malformed
  let fraction ← if ← accept (· == '.') then some <$> digits atEnd else pure none
  let exponent ←
    if ← accept fun c => c == 'e' || c == 'E' then do
      let below ← accept (· == '-')
      unless below do discard <| accept (· == '+')
      let power : Nat := (← digits atEnd).foldl (fun n digit => n * 10 + digit) 0
      pure (some (if below then -(power : Int) else power))
    else pure none
  return ⟨negative, whole, fraction, exponent⟩

/-- Takes digits into a number as long as it stays within 64 bits; counts the digits left over from
the first one that does not fit. -/
def absorb (n : Nat) : List Nat → Nat × Nat
  | [] => (n, 0)
  | digit :: rest =>
    if n * 10 + digit < Nat.pow 2 64 then absorb (n * 10 + digit) rest else (n, rest.length + 1)

/-- The double found for `significand * 10 ^ exponent`: the significand is rounded first and then
scaled by one rounded power of ten, or by two where it lies far below one. -/
def scale (significand : Nat) (exponent : Int) : Double :=
  let start := Double.ofInt significand
  let tens (power : Int) : Double := .ofInt (Nat.pow 10 power.toNat)
  if significand = 0 then start
  else if 308 < exponent then .infinite false
  else if 0 ≤ exponent then start * tens exponent
  else if -308 ≤ exponent then start / tens (-exponent)
  else if -616 ≤ exponent then start / tens 308 / tens (-exponent - 308)
  else .ofInt 0

/-- The number that a text stands for: an integer where it is written as one and fits 64 bits, the
negative zero apart; otherwise a double, which must be finite. -/
def NumberText.number? (text : NumberText) : Option Number :=
  let (whole, beyond) := absorb 0 text.whole
  let fraction := text.fraction.getD []
  let (significand, dropped) := absorb whole fraction
  let taken := fraction.length - dropped
  let exponent : Int := (beyond : Int) - (taken : Int) + text.exponent.getD 0
  let isInteger := text.fraction.isNone && text.exponent.isNone && beyond == 0 &&
    (!text.negative || (significand != 0 && significand ≤ Nat.pow 2 63))
  if isInteger then
    some (.int (if text.negative then -(significand : Int) else significand))
  else
    match scale significand exponent with
    | .finite x => some (.float (if text.negative then x.neg else x))
    | _ => none

/-- A number. One beyond all doubles is malformed. -/
def number : Reader Number := do
  match (← numberText .truncated).number? with
  | some n => return n
  | none => throw .malformed

/-! ### Arrays and objects -/

/-- Whether another item follows before the closing bracket, which stays unread. A comma must stand
between two items, and an item must follow a comma. -/
def itemFollows (closing : Char) (starts : Char → Bool) (first : Bool) : Reader Bool := do
  let next ← upcoming
  if next = closing then return false
  let start ← if first then pure next else do
    one ','
    upcoming
  unless starts start do throw .malformed
  return true

/-- Reads items one after the other up to the closing bracket. Each takes at least one character off
the text, so a bound of the text's length is never reached. -/
def itemsFrom {σ : Type} (closing : Char) (starts : Char → Bool) (item : σ → Reader σ) :
    Nat → Bool → σ → Reader σ
  | 0, _, _ => throw .truncated
  | bound + 1, first, soFar => do
    if ← itemFollows closing starts first then
      itemsFrom closing starts item bound false (← item soFar)
    else
      one closing
      return soFar

/-- The items between brackets, folded in the order in which they stand. -/
def items {σ : Type} (opening closing : Char) (starts : Char → Bool) (item : σ → Reader σ)
    (start : σ) : Reader σ := do
  one opening
  itemsFrom closing starts item ((← get).length + 1) true start

/-- An array, folded item by item. -/
def arrayItems {σ : Type} (item : σ → Reader σ) (start : σ) : Reader σ :=
  items '[' ']' (· != ']') item start

/-- An object, folded member by member; a member starts with its key. -/
def objectMembers {σ : Type} (member : String → σ → Reader σ) (start : σ) : Reader σ :=
  items '\x7b' '\x7d' (· == '"') (fun soFar => do member (← string) soFar) start

/-- The items of an array. -/
def array {α : Type} (item : Reader α) : Reader (List α) :=
  List.reverse <$> arrayItems (fun soFar => return (← item) :: soFar) []

/-! ### Documents -/

/-- A document that is neither an array nor an object. `first` is its first character. -/
def scalar (first : Char) : Reader Json := do
  if first = 'n' then
    word ['n', 'u', 'l', 'l']
    return .null
  else if first = 't' then
    word (boolChars true)
    return .bool true
  else if first = 'f' then
    word (boolChars false)
    return .bool false
  else if first = '"' then
    return .string (← string)
  else if first = '-' || first.isDigit then
    return .number (← number)
  else throw .malformed

/-- A document in which arrays and objects are nested at most `depth` deep. -/
def value (depth : Nat) : Reader Json := do
  let first ← upcoming
  match depth with
  | 0 => if first = '[' ∨ first = '\x7b' then throw .malformed else scalar first
  | depth + 1 =>
    if first = '[' then
      return .array (← array (value depth))
    else if first = '\x7b' then
      let member (key : String) (soFar : List (String × Json)) : Reader (List (String × Json)) := do
        mark ':'
        return insertMember soFar key (← value depth)
      return .object (← objectMembers member [])
    else scalar first

/-- Passes over a document without finding out what it holds: numbers have no limit and code units
need no partner. The bound on its depth is for the recursion alone. -/
def skip : Nat → Reader Unit
  | 0 => throw .truncated
  | bound + 1 => do
    let first ← upcoming
    if first = '[' then
      arrayItems (fun _ => skip bound) ()
    else if first = '\x7b' then
      items '\x7b' '\x7d' (· == '"') (fun _ => do
        discard <| stringOf unpairedCode
        mark ':'
        skip bound) ()
    else if first = '"' then
      discard <| stringOf unpairedCode
    else if first = '-' || first.isDigit then
      discard <| numberText .malformed
    else
      discard <| scalar first

/-- Passes over one document of any depth. -/
def ignored : Reader Unit := do
  skip ((← get).length + 1)

/-- A whole text: nothing but blanks may follow what is read. -/
def whole {α : Type} (reader : Reader α) (text : String) : Except Fault α := do
  let (result, rest) ← StateT.run reader text.toList
  if rest.all isBlank then return result else throw .malformed

end Reader

/-- The document that a text holds. -/
def parse (text : String) : Except Fault Json :=
  (Reader.value depthLimit).whole text

end Multimethod.Json
