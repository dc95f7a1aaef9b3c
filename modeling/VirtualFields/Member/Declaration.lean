import VirtualFields.Member.Modifiers
import VirtualFields.Ty.Basic

/-!
# Declarations of fields and methods

What a program declares about a member: its name, the class that owns it and its
modifiers, for a field also its type, annotations and initializer, for a method its
parameters and the type it returns.
-/

namespace VirtualFields

/-- The owner of a member. -/
inductive Owner where
  /-- A named class, interface or enumeration. -/
  | named (className : String)
  /-- The class that all array types behave as if they extended. -/
  | arrayClass
  deriving DecidableEq

/-- The text of an owner. -/
def Owner.text : Owner → String
  | named className => className
  | arrayClass => "_Array_"

/-- What the declarations of fields and methods share. -/
structure Declaration where
  name : String
  owner : Owner
  modifiers : Modifiers := ∅
  deriving DecidableEq

/-- A field declaration whose initializer is an expression of type `ε`. -/
structure Field (ε : Type) extends Declaration where
  type : Ty
  /-- The qualified names of the annotations on the declaration. -/
  annotations : List String := []
  initializer : Option ε := none
  deriving DecidableEq

/-- A method declaration. -/
structure Method extends Declaration where
  parameters : List Ty := []
  returns : Ty
  deriving DecidableEq

namespace Field

variable {ε : Type}

/-- The field `length` of the array class. -/
def arrayLength : Field ε where
  name := "length"
  owner := .arrayClass
  modifiers := .ofList [.publicAccess, .final]
  type := .int

/-- The field with further modifiers. -/
def withModifiers (f : Field ε) (s : Modifiers) : Field ε :=
  { f with modifiers := f.modifiers ∪ s }

/-- The field with one more annotation. -/
def withAnnotation (f : Field ε) (a : String) : Field ε :=
  { f with annotations := f.annotations ++ [a] }

/-- The field with another initializer. -/
def withInitializer (f : Field ε) (initializer : ε) : Field ε :=
  { f with initializer := some initializer }

/-- The initializer of a static final field. -/
def staticInitializer? (f : Field ε) : Option ε :=
  if f.modifiers.isStaticFinal then f.initializer else none

theorem staticInitializer?_eq_some_iff {f : Field ε} {e : ε} :
  f.staticInitializer? = some e ↔ f.modifiers.isStaticFinal ∧ f.initializer = some e
  := by
  simp [staticInitializer?]

end Field

namespace Method

/-- A public instance method without parameters. -/
def getter (className name : String) (returns : Ty) : Method where
  name := name
  owner := .named className
  modifiers := .single .publicAccess
  returns := returns

/-- The method with other parameters. -/
def withParameters (m : Method) (parameters : List Ty) : Method :=
  { m with parameters := parameters }

/-- The method with further modifiers. -/
def withModifiers (m : Method) (s : Modifiers) : Method :=
  { m with modifiers := m.modifiers ∪ s }

end Method

end VirtualFields
