import Multimethod.Value

/-!
Instances of classes. An instance belongs to one class for good; its fields come and go.
-/
namespace Multimethod

/-- An instance: its class and its fields. -/
structure Instance where
  cls : Class
  fields : Fields Value

namespace Instance

/-- An instance without fields. -/
def new (cls : Class) : Instance := ⟨cls, []⟩

/-- The instance as a value. -/
def toValue (self : Instance) : Value := .object self.cls self.fields

/-- What a field holds. -/
def get? (self : Instance) (key : String) : Option Value :=
  self.fields.get? key

/-- Sets a field. -/
def set (self : Instance) (key : String) (value : Value) : Instance :=
  { self with fields := self.fields.insert key value }

/-- Removes a field; the others keep their order. -/
def remove (self : Instance) (key : String) : Instance :=
  { self with fields := self.fields.erase key }

/-- Setting a field changes what that field holds and no other. -/
theorem get?_set (self : Instance) (key other : String) (value : Value) :
    (self.set key value).get? other = if key = other then some value else self.get? other :=
  Fields.get?_insert self.fields key other value

/-- Removing a field changes what that field holds and no other. -/
theorem get?_remove (self : Instance) (key other : String) :
    (self.remove key).get? other = if key = other then none else self.get? other :=
  Fields.get?_erase self.fields key other

end Instance

end Multimethod
