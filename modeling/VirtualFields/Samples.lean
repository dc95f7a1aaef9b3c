import VirtualFields.Derivation.VariableTable
import VirtualFields.Registry.Matching

/-!
# Samples

Representative accessors and qualifiers: an accessor for every way of reading a virtual
field, members that only look like accessors, types that expose virtual fields, and the
variables of fields and local variables.
-/

namespace VirtualFields.Samples

/-- The class that sample fields are declared on. -/
def className : String := "com.example.Constants"

/-- Members that read virtual fields. -/
def accessors : List Member := [
  .field .arrayLength,
  .method (.getter ClassName.string "length" .int),
  .method (.getter ClassName.collection "size" .int),
  .method (.getter "java.util.ArrayList" "size" .int),
  .method (.getter ClassName.map "size" .int),
  .method (.getter "java.util.HashMap" "size" .int),
  .method (.getter ClassName.optional "get" (.raw ClassName.object)),
  .method (.getter ClassName.optionalInt "getAsInt" .int),
  .method (.getter ClassName.guavaOptional "get" (.raw ClassName.object))]
  ++ Primitive.all.map fun p => .method (.getter p.wrapper p.unwrapMethod (.primitive p))

/-- Members that look like accessors but read no virtual field. -/
def nonAccessors : List Member := [
  .field { name := "length", owner := .named className, type := .int },
  .method (.getter "com.example.Ruler" "length" .int),
  .method ((Method.getter ClassName.string "length" .int).withParameters [.int]),
  .method (.getter ClassName.collection "isEmpty" (.primitive .boolean)),
  .method (.getter "java.lang.Integer" "longValue" (.primitive .long)),
  .method ((Method.getter "java.lang.Integer" "intValue" .int).withModifiers (.single .static)),
  .method (.getter ClassName.optional "isPresent" (.primitive .boolean))]

/-- Types that expose virtual fields. -/
def qualifierTypes : List Ty := [
  .array .int,
  .array (.raw ClassName.string),
  .raw ClassName.string,
  .named ClassName.collection [.raw ClassName.string],
  .named "java.util.ArrayList" [.raw ClassName.string],
  .named "java.util.TreeSet" [.raw ClassName.string],
  .named ClassName.map [.raw ClassName.string, .raw "java.lang.Integer"],
  .raw "java.util.LinkedHashMap",
  .named ClassName.optional [.raw ClassName.string],
  .raw ClassName.optionalInt]
  ++ Primitive.all.map fun p => .raw p.wrapper

/-- A static final field with an initializer. -/
def staticFinalField (name : String) (type : Ty) (initializer : Expr) : Field Expr where
  name := name
  owner := .named className
  modifiers := .ofList [.static, .final]
  type := type
  initializer := some initializer

/-- The variable that reads a field. -/
def fieldVariable (t : VariableTable) (f : Field Expr) : Reply (Variable Ref) :=
  t.request (.element (.member (.field f))) none (some f.type)

/-- The variable of a local variable. -/
def localVariable (t : VariableTable) (name : String) (type : Ty) : Reply (Variable Ref) :=
  t.request (.element (.localVariable name type)) none (some type)

end VirtualFields.Samples
