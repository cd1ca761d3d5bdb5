import Multimethod.Value

/-!
The primitive tags of the rule grammar: the closed set of names for kinds of values. Tags overlap;
a value may belong to several of them.
-/
namespace Multimethod

/-- A name for one or more kinds of values. -/
inductive Tag where
  | string
  | symbol
  | number
  | boolean
  | bigint
  | array
  | hash
  | object
  | nulled
  | regexp
  | function
  | cls
  | functional
deriving DecidableEq, Inhabited

namespace Tag

/-- Every tag, in grammar order. -/
def all : List Tag :=
  [.string, .symbol, .number, .boolean, .bigint, .array, .hash, .object, .nulled, .regexp,
   .function, .cls, .functional]

/-- The tag as rules write it. -/
def name : Tag → String
  | .string => "string"
  | .symbol => "symbol"
  | .number => "number"
  | .boolean => "boolean"
  | .bigint => "bigint"
  | .array => "array"
  | .hash => "hash"
  | .object => "object"
  | .nulled => "nulled"
  | .regexp => "regexp"
  | .function => "function"
  | .cls => "class"
  | .functional => "functional"

/-- The tag of a name. -/
def ofName? (name : String) : Option Tag :=
  all.find? fun tag => tag.name == name

/-- The tag as diagnostics show it: its name with a capital. -/
def inspect (tag : Tag) : String :=
  tag.name.capitalize

/-- What the tag accepts, in words. -/
def description : Tag → String
  | .string => "strings"
  | .symbol => "symbols"
  | .number => "numbers"
  | .boolean => "booleans"
  | .bigint => "big integers"
  | .array => "arrays"
  | .hash => "keyed aggregates that are not arrays"
  | .object => "any keyed aggregate, arrays included"
  | .nulled => "null, including an absent argument"
  | .regexp => "regular expressions"
  | .function => "functions that are not classes"
  | .cls => "classes"
  | .functional => "functions and classes"

/-- Whether a value belongs to the tag. Instances count as keyed aggregates; null, regular
expressions and callables never do. -/
def accepts (tag : Tag) (value : Value) : Bool :=
  match tag, value with
  | .string, .string _ => true
  | .symbol, .symbol _ => true
  | .number, .number _ => true
  | .boolean, .bool _ => true
  | .bigint, .bigint _ => true
  | .array, .array _ => true
  | .hash, .hash _ => true
  | .hash, .object _ _ => true
  | .object, .array _ => true
  | .object, .hash _ => true
  | .object, .object _ _ => true
  | .nulled, .null => true
  | .regexp, .regexp _ => true
  | .function, .function _ => true
  | .cls, .cls _ => true
  | .functional, .function _ => true
  | .functional, .cls _ => true
  | _, _ => false

/-- The kinds of values that belong to the tag. Most tags are named for the one kind they stand for. -/
def kinds : Tag → List String
  | .hash => ["hash", "object"]
  | .object => ["array", "hash", "object"]
  | .nulled => ["null"]
  | .functional => ["function", "class"]
  | tag => [tag.name]

/-- Whether a value belongs to a tag is a matter of its kind. -/
theorem accepts_iff_kind (tag : Tag) (value : Value) :
    tag.accepts value = true ↔ value.kind ∈ tag.kinds := by
  have listed : tag.accepts value = tag.kinds.elem value.kind := by
    cases tag <;> cases value <;> rfl
  rw [listed, List.elem_iff]

/-- What is keyed without being an array is keyed. -/
theorem object_of_hash {value : Value} (accepted : hash.accepts value = true) :
    object.accepts value = true := by
  rw [accepts_iff_kind] at accepted ⊢
  exact .tail _ accepted

theorem functional_iff (value : Value) : functional.accepts value = true ↔
    function.accepts value = true ∨ cls.accepts value = true := by
  simp only [accepts_iff_kind]
  exact List.mem_append (s := ["function"]) (t := ["class"])

end Tag

end Multimethod
