import Multimethod.Double
import Multimethod.Fields

/-!
JSON documents. The members of an object print in the order in which they stand. Documents that
are read, and documents made from values, have them in ascending order of their keys, each key
once; there the later of two members of one key wins.
-/
namespace Multimethod

/-- A number in a document: an integer stays one as long as it fits 64 bits. -/
inductive Json.Number where
  | int (n : Int)
  | float (x : Double.Finite)
deriving DecidableEq

/-- A document. -/
inductive Json where
  | null
  | bool (b : Bool)
  | number (n : Json.Number)
  | string (text : String)
  | array (items : List Json)
  | object (members : List (String × Json))

namespace Json

instance : Inhabited Json := ⟨.null⟩

/-- Puts a member where its key belongs in ascending order, in place of one of the same key. -/
def insertMember {α : Type} (members : List (String × α)) (key : String) (item : α) :
    List (String × α) :=
  match members with
  | [] => [(key, item)]
  | (k, held) :: rest =>
    if key < k then (key, item) :: (k, held) :: rest
    else if key = k then (key, item) :: rest
    else (k, held) :: insertMember rest key item

/-- Members in ascending order of their keys; of several under one key the last stays. -/
def sortMembers {α : Type} (members : List (String × α)) : List (String × α) :=
  members.foldl (fun sorted member => insertMember sorted member.1 member.2) []

/-- The object of the given members. -/
def ofMembers (members : List (String × Json)) : Json :=
  .object (sortMembers members)

/-- The number of a document as a double. -/
def Number.toDouble : Number → Double
  | .int n => .ofInt n
  | .float x => .finite x

end Json

end Multimethod
