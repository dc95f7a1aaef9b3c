/-!
# Well-known classes

The qualified names of the library classes that virtual fields are declared on.
-/

namespace VirtualFields.ClassName

/-- The root of the class hierarchy. -/
def object : String := "java.lang.Object"

/-- The class of strings. -/
def string : String := "java.lang.String"

/-- The interface of readable character sequences. -/
def charSequence : String := "java.lang.CharSequence"

/-- The interface of objects with a natural order. -/
def comparable : String := "java.lang.Comparable"

/-- The interface of objects that can be iterated. -/
def iterable : String := "java.lang.Iterable"

/-- The interface of collections. -/
def collection : String := "java.util.Collection"

/-- The interface of maps. -/
def map : String := "java.util.Map"

/-- The optional container of the standard library. -/
def optional : String := "java.util.Optional"

/-- The optional container of an `int`. -/
def optionalInt : String := "java.util.OptionalInt"

/-- The optional container of a `long`. -/
def optionalLong : String := "java.util.OptionalLong"

/-- The optional container of a `double`. -/
def optionalDouble : String := "java.util.OptionalDouble"

/-- The optional container of the Guava library. -/
def guavaOptional : String := "com.google.common.base.Optional"

end VirtualFields.ClassName
