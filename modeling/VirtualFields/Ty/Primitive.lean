/-!
# Primitive types

The eight primitive types of the analysed language, each with the class that boxes it and
the method that takes the primitive out of the box again.
-/

namespace VirtualFields

/-- A primitive type, in the order of declaration. -/
inductive Primitive where
  | boolean
  | byte
  | char
  | short
  | int
  | long
  | float
  | double
  deriving DecidableEq, Ord

namespace Primitive

/-- The primitive types in order. -/
def all : List Primitive :=
  [boolean, byte, char, short, int, long, float, double]

/-- Every primitive type is listed. -/
theorem mem_all (p : Primitive) :
  p ∈ all
  := by
  cases p <;> decide

/-- The keyword of a primitive type. -/
def keyword : Primitive → String
  | boolean => "boolean"
  | byte => "byte"
  | char => "char"
  | short => "short"
  | int => "int"
  | long => "long"
  | float => "float"
  | double => "double"

/-- The class whose objects box the values of a primitive type. -/
def wrapper : Primitive → String
  | boolean => "java.lang.Boolean"
  | byte => "java.lang.Byte"
  | char => "java.lang.Character"
  | short => "java.lang.Short"
  | int => "java.lang.Integer"
  | long => "java.lang.Long"
  | float => "java.lang.Float"
  | double => "java.lang.Double"

/-- The method of the boxing class that returns the boxed primitive. -/
def unwrapMethod : Primitive → String
  | boolean => "booleanValue"
  | byte => "byteValue"
  | char => "charValue"
  | short => "shortValue"
  | int => "intValue"
  | long => "longValue"
  | float => "floatValue"
  | double => "doubleValue"

/-- The primitive type boxed by a class. -/
def ofWrapper? (className : String) : Option Primitive :=
  all.find? fun p => p.wrapper = className

end Primitive

end VirtualFields
