import VirtualFields.Member.Basic

/-!
# Configurations

A configuration says which declared initializers the analysis may take for the value of
their field.  Reflection and injection frameworks write fields behind the program's back,
so the initializer of a field is trusted only if the field is final, not volatile, owned
by no untrusted class and without an annotation that stands for an implicit write.
-/

namespace VirtualFields

/-- The annotations of common injection frameworks. -/
def defaultWriteAnnotations : List String := [
  "javax.inject.Inject",
  "jakarta.inject.Inject",
  "com.google.inject.Inject",
  "org.springframework.beans.factory.annotation.Autowired"]

/-- A configuration of the analysis. -/
@[ext]
structure Config where
  /-- Whether any initializer is trusted. -/
  trustInitializers : Bool := true
  /-- The classes whose fields may be rewritten by reflection. -/
  untrustedClasses : List String := []
  /-- The annotations of fields that are written implicitly. -/
  writeAnnotations : List String := defaultWriteAnnotations
  deriving DecidableEq

namespace Config

/-- Whether an owner is an untrusted class. -/
def distrusts (c : Config) : Owner → Bool
  | .named className => c.untrustedClasses.contains className
  | .arrayClass => false

/-- Whether the initializer of a field may be taken for its value. -/
def trusts (c : Config) (f : Field Expr) : Bool :=
  c.trustInitializers && f.modifiers.has .final && !f.modifiers.has .volatile
    && !c.distrusts f.owner && f.annotations.all fun a => !c.writeAnnotations.contains a

end Config

end VirtualFields
