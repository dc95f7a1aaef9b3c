import VirtualFields.Member.Basic
import VirtualFields.Ty.Hierarchy
import VirtualFields.Ty.Optional

/-!
# Type resolvers

What the registry and the derivation of values ask about types and methods.  Only the place
of a type among the classes depends on the analysed program; the other queries have answers
that follow from the form of a type, which a resolver may refine.  A class hierarchy is a
resolver that refines none of them.
-/

namespace VirtualFields

namespace Method

/-- Whether a method belongs to an object and takes no arguments. -/
def isInstanceGetter (m : Method) : Bool :=
  m.parameters.isEmpty && !m.modifiers.has .static

/-- Whether a method returns the payload of an optional container. -/
def getsPayload (m : Method) : Bool :=
  m.isInstanceGetter &&
    OptionalClass.all.any fun o => m.owner = .named o.className && o.getters.contains m.name

end Method

/-- The queries about types. -/
structure TypeResolver where
  /-- Whether a type is a class or one of its subtypes. -/
  isInheritor : Ty → String → Bool
  isArray : Ty → Bool := Ty.isArray
  unboxed? : Ty → Option Primitive := Ty.unboxed?
  isWrapper : Ty → Bool := fun t => (unboxed? t).isSome
  isOptional : Ty → Bool := Ty.isOptional
  payload? : Ty → Option Ty := Ty.payload?
  getsPayload : Method → Bool := Method.getsPayload

namespace Hierarchy

/-- The resolver that asks a class hierarchy. -/
def resolver (h : Hierarchy) : TypeResolver where
  isInheritor := h.isInheritor

instance : Coe Hierarchy TypeResolver where
  coe := resolver

variable (h : Hierarchy)

@[simp]
theorem resolver_isInheritor :
  h.resolver.isInheritor = h.isInheritor
  := rfl

@[simp]
theorem resolver_isArray :
  h.resolver.isArray = Ty.isArray
  := rfl

@[simp]
theorem resolver_unboxed? :
  h.resolver.unboxed? = Ty.unboxed?
  := rfl

@[simp]
theorem resolver_isWrapper :
  h.resolver.isWrapper = Ty.isWrapper
  := rfl

@[simp]
theorem resolver_isOptional :
  h.resolver.isOptional = Ty.isOptional
  := rfl

@[simp]
theorem resolver_payload? :
  h.resolver.payload? = Ty.payload?
  := rfl

@[simp]
theorem resolver_getsPayload :
  h.resolver.getsPayload = Method.getsPayload
  := rfl

end Hierarchy

end VirtualFields
