import VirtualFields.Registry.Basic
import VirtualFields.Registry.Resolver

/-!
# Matching types and accessors

Which virtual fields the objects of a type expose, and which virtual field a member reads.
Arrays, boxes and optional containers are recognized by their form or their name, strings,
collections and maps by their place in the class hierarchy.  `VirtualField.ofType?` and
`VirtualField.ofAccessor?` answer with the first match in the order of the registry.  All
of them ask a type resolver, for instance a class hierarchy.
-/

namespace VirtualFields

/-- Whether a method takes the primitive out of a box. -/
def Method.unwraps (m : Method) : Bool :=
  m.isInstanceGetter &&
    Primitive.all.any fun p => m.owner = .named p.wrapper && m.name = p.unwrapMethod

namespace VirtualField

/-- Whether a method is declared as the reader of a virtual field on a subclass of the
field's owner. -/
def declaredReader (f : VirtualField) (types : TypeResolver) (m : Method) : Bool :=
  match m.owner with
  | .named c =>
    m.name = f.name && m.parameters.isEmpty && f.ownerClass?.any (types.isInheritor (.raw c))
  | .arrayClass => false

/-- Whether objects of a type have a virtual field. -/
def exposedBy (f : VirtualField) (types : TypeResolver) (t : Ty) : Bool :=
  match f with
  | arrayLength => types.isArray t
  | unbox => types.isWrapper t
  | optionalValue => types.isOptional t
  | stringLength | collectionSize | mapSize => f.ownerClass?.any (types.isInheritor t)

/-- Whether a member reads a virtual field. -/
def readBy (f : VirtualField) (types : TypeResolver) : Member → Bool
  | .field d =>
    match f with
    | arrayLength => d.name = "length" && d.owner = .arrayClass
    | _ => false
  | .method m =>
    match f with
    | arrayLength => false
    | unbox => m.unwraps
    | optionalValue => types.getsPayload m
    | stringLength | collectionSize | mapSize => f.declaredReader types m

/-- The first virtual field that objects of a type have. -/
def ofType? (types : TypeResolver) (t : Ty) : Option VirtualField :=
  all.find? (·.exposedBy types t)

/-- The first virtual field that a program element reads. -/
def ofAccessor? (types : TypeResolver) (e : Element) : Option VirtualField :=
  e.member?.bind fun m => all.find? (·.readBy types m)

end VirtualField

end VirtualFields
