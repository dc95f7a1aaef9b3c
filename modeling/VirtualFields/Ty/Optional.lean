import VirtualFields.Ty.Basic
import VirtualFields.Ty.ClassName

/-!
# Boxes and optional containers

The types whose objects hold a single value.  Boxing classes hold a primitive; optional
containers hold a payload or nothing and are known by name, each with the methods that
return the payload.
-/

namespace VirtualFields

/-- What an optional container may hold. -/
inductive Payload where
  /-- A value of the container's first type argument. -/
  | typeArgument
  /-- A value of a primitive type. -/
  | primitive (p : Primitive)
  deriving DecidableEq

/-- An optional container with the methods that return its payload. -/
structure OptionalClass where
  className : String
  getters : List String
  payload : Payload

/-- The optional containers. -/
def OptionalClass.all : List OptionalClass := [
  ⟨ClassName.optional, ["get", "orElseThrow"], .typeArgument⟩,
  ⟨ClassName.optionalInt, ["getAsInt", "orElseThrow"], .primitive .int⟩,
  ⟨ClassName.optionalLong, ["getAsLong", "orElseThrow"], .primitive .long⟩,
  ⟨ClassName.optionalDouble, ["getAsDouble", "orElseThrow"], .primitive .double⟩,
  ⟨ClassName.guavaOptional, ["get"], .typeArgument⟩]

namespace Ty

/-- The primitive type that values of a boxing class unbox to. -/
def unboxed? (t : Ty) : Option Primitive :=
  t.className?.bind Primitive.ofWrapper?

/-- Whether a type is a boxing class. -/
def isWrapper (t : Ty) : Bool :=
  t.unboxed?.isSome

/-- The optional container a type is an instance of. -/
def optionalClass? (t : Ty) : Option OptionalClass :=
  t.className?.bind fun c => OptionalClass.all.find? (·.className = c)

/-- Whether a type is an optional container. -/
def isOptional (t : Ty) : Bool :=
  t.optionalClass?.isSome

/-- The first type argument of a class type. -/
def firstArg? : Ty → Option Ty
  | .named _ args => args.head?
  | .primitive _ | .array _ => none

/-- The type of the payload of an optional container.  The payload of a raw type is an
object of any class. -/
def payload? (t : Ty) : Option Ty :=
  t.optionalClass?.map fun o =>
    match o.payload with
    | .primitive p => .primitive p
    | .typeArgument => t.firstArg?.getD (.raw ClassName.object)

end Ty

end VirtualFields
