import Multimethod.Fields

/-!
Files in a tree of directories, and what a path leads to. A path is followed name by name from the
place where one stands; each step either arrives somewhere or is refused for a stated reason.
-/
namespace Multimethod.Files

/-- What stands under a name. -/
inductive Node where
  | file (text : String)
  | directory (entries : List (String × Node))

instance : Inhabited Node := ⟨.directory []⟩

/-- Why nothing can be read under a path. -/
inductive Refusal where
  | notFound
  | notDirectory
  | isDirectory
  | nameTooLong
deriving DecidableEq

/-- The number by which the system knows a refusal. -/
def Refusal.code : Refusal → Nat
  | .notFound => 2
  | .notDirectory => 20
  | .isDirectory => 21
  | .nameTooLong => 36

/-- A refusal in words. -/
def Refusal.words : Refusal → String
  | .notFound => "No such file or directory"
  | .notDirectory => "Not a directory"
  | .isDirectory => "Is a directory"
  | .nameTooLong => "File name too long"

/-- Words about a failure of the system, with its number. -/
def withCode (words : String) (code : Nat) : String :=
  words ++ " (os error " ++ toString code ++ ")"

/-- A refusal as it is reported. -/
def Refusal.message (refusal : Refusal) : String :=
  withCode refusal.words refusal.code

/-- How many bytes a name may have. -/
def nameLimit : Nat := 255

/-- How many bytes a path may have. -/
def pathLimit : Nat := 4095

/-! ### Paths -/

/-- The parts between the slashes of a path, in order; two slashes in a row have an empty part
between them. -/
def parts : List Char → List (List Char)
  | [] => [[]]
  | c :: rest =>
    if c = '/' then [] :: parts rest
    else
      match parts rest with
      | [] => [[c]]
      | part :: more => (c :: part) :: more

/-- The names in a path. -/
def names (path : String) : List String :=
  (parts path.toList).map String.ofList

/-! ### Places -/

/-- A place in a tree: what is there, and the directories around it, nearest first. -/
structure Place where
  node : Node
  around : List Node

namespace Place

/-- The root of a tree. -/
def root (node : Node) : Place := ⟨node, []⟩

/-- The directory around a place. The root is around itself. -/
def parent (place : Place) : Place :=
  match place.around with
  | [] => place
  | node :: around => ⟨node, around⟩

/-- The root of the tree in which a place is. -/
def top (place : Place) : Place :=
  root (place.around.getLastD place.node)

/-- Goes on by one name. Only a directory leads on: to itself by a dot or by no name at all, to the
directory around it by two dots, and else to what it holds under the name. -/
def step (place : Place) (name : String) : Except Refusal Place :=
  match place.node with
  | .file _ => .error .notDirectory
  | .directory entries =>
    if name = "" ∨ name = "." then .ok place
    else if name = ".." then .ok place.parent
    else if nameLimit < name.utf8ByteSize then .error .nameTooLong
    else
      match Fields.get? entries name with
      | none => .error .notFound
      | some node => .ok ⟨node, place.node :: place.around⟩

/-- Goes where a path leads. A path that begins with a slash starts from the root. -/
def follow (place : Place) (path : String) : Except Refusal Place :=
  if path = "" then .error .notFound
  else if pathLimit < path.utf8ByteSize then .error .nameTooLong
  else (names path).foldlM step (if path.toList.head? = some '/' then place.top else place)

/-- The text of the file to which a path leads. -/
def read (place : Place) (path : String) : Except Refusal String := do
  match (← place.follow path).node with
  | .file text => .ok text
  | .directory _ => .error .isDirectory

end Place

end Multimethod.Files
