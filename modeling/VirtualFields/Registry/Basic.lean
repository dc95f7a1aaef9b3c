import VirtualFields.Ty.ClassName

/-!
# Virtual fields

A virtual field is an attribute of an object that the analysis treats as a field of the
object: the length of an array or a string, the size of a collection or a map, the
primitive in a box, and the payload of an optional container.  The set of virtual fields
is closed.
-/

namespace VirtualFields

/-- A virtual field, in the order in which the registry is searched. -/
inductive VirtualField where
  /-- The length of an array. -/
  | arrayLength
  /-- The length of a string. -/
  | stringLength
  /-- The size of a collection. -/
  | collectionSize
  /-- The size of a map. -/
  | mapSize
  /-- The primitive in a box. -/
  | unbox
  /-- The payload of an optional container. -/
  | optionalValue
  deriving DecidableEq

namespace VirtualField

/-- The virtual fields in order. -/
def all : List VirtualField :=
  [arrayLength, stringLength, collectionSize, mapSize, unbox, optionalValue]

/-- Every virtual field is listed. -/
theorem mem_all (f : VirtualField) :
  f ∈ all
  := by
  cases f <;> decide

/-- The name under which a virtual field is shown; two kinds of object may share it. -/
def name : VirtualField → String
  | arrayLength | stringLength => "length"
  | collectionSize | mapSize => "size"
  | unbox | optionalValue => "value"

/-- The class whose objects have a virtual field, if the field is declared on a class. -/
def ownerClass? : VirtualField → Option String
  | stringLength => some ClassName.string
  | collectionSize => some ClassName.collection
  | mapSize => some ClassName.map
  | arrayLength | unbox | optionalValue => none

/-- Whether a virtual field keeps its value as long as its qualifier stays the same
object.  Collections and maps are mutable. -/
def isStable : VirtualField → Bool
  | collectionSize | mapSize => false
  | arrayLength | stringLength | unbox | optionalValue => true

end VirtualField

end VirtualFields
