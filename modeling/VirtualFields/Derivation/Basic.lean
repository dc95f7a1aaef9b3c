import VirtualFields.Config.Basic
import VirtualFields.Expr.Fold
import VirtualFields.Registry.Basic
import VirtualFields.Registry.Resolver
import VirtualFields.Text.Units
import VirtualFields.Value.Basic

/-!
# Deriving the value of a virtual field

`VirtualField.derive` finds the most precise source for the value of a virtual field on a
qualifier: the contents of a box, the trusted initializer of the qualifying field, the
named read of the field on a qualifying variable, a tag on the qualifier, a literal
qualifier, and otherwise the default value of the field.  `Derivation` lists these
sources.  Types, constants and trust are the concern of `Collaborators`; the stock ones ask
a class hierarchy, fold constants and trust what a configuration trusts.
-/

namespace VirtualFields

/-- What the derivation of values consults. -/
structure Collaborators where
  types : TypeResolver
  /-- The constant that an expression stands for. -/
  evaluate? : Expr → Option Constant
  /-- Whether the initializer of a field may be taken for its value. -/
  trusts : Field Expr → Bool

/-- The collaborators that fold constants through a depth of nested field reads and trust
what a configuration trusts. -/
def Collaborators.configured (types : TypeResolver) (depth : Nat) (config : Config) :
    Collaborators where
  types := types
  evaluate? := Expr.fold depth
  trusts := config.trusts

/-- The settings of the stock collaborators: a class hierarchy, folding and a
configuration. -/
structure Environment where
  hierarchy : Hierarchy := .jdk
  /-- The depth of nested field reads that folding follows. -/
  depth : Nat := defaultDepth
  config : Config := {}

/-- The stock collaborators with their settings. -/
def Environment.collaborators (env : Environment) : Collaborators :=
  .configured env.hierarchy env.depth env.config

instance : Coe Environment Collaborators where
  coe := Environment.collaborators

/-- The stock collaborators with the default settings. -/
def Collaborators.stock : Collaborators := ({} : Environment)

/-- The `int` constant of a length, if an `int` can hold the length. -/
def lengthConstant? (n : Nat) : Option Constant :=
  if n < 0x80000000 then some (.int (.ofNat n)) else none

namespace VirtualField

variable {ι : Type}

/-- The default value of a virtual field: what holds of its value on any object. -/
def defaultValue : VirtualField → Value ι
  | unbox => .unknown
  | optionalValue => .ofNullability .nullable
  | arrayLength | stringLength | collectionSize | mapSize => .ofInterval .lengths

/-- The type of a virtual field on objects of a type, which may be missing. -/
def typeOn? (f : VirtualField) (qualifierType : Option Ty)
    (types : TypeResolver := Hierarchy.jdk) : Option Ty :=
  match f with
  | unbox => (qualifierType.bind types.unboxed?).map .primitive
  | optionalValue => qualifierType.bind types.payload?
  | arrayLength | stringLength | collectionSize | mapSize => some .int

/-- The value of a virtual field on a constant: the length of a string. -/
def ofConstant? : VirtualField → Constant → Option Constant
  | stringLength, .str s => lengthConstant? (Text.unitLength s)
  | _, _ => none

/-- The value of a virtual field on the object that an initializer builds: the length of
an array, given by its elements or its first dimension, or of a string.  The dimension and
the string are evaluated. -/
def ofInitializerBy? (f : VirtualField) (evaluate? : Expr → Option Constant) (e : Expr) :
    Option Constant :=
  match f, e with
  | arrayLength, .arrayLiteral elements => lengthConstant? elements.length
  | arrayLength, .newArrayOf _ _ elements => lengthConstant? elements.length
  | arrayLength, .newArray _ (dimension :: _) =>
    match evaluate? dimension with
    | some (.int n) => some (.int n)
    | _ => none
  | stringLength, e => (evaluate? e).bind stringLength.ofConstant?
  | _, _ => none

/-- The value of a virtual field on the object that an initializer builds, with constants
folded through a depth of nested field reads. -/
def ofInitializer? (f : VirtualField) (depth : Nat) (e : Expr) : Option Constant :=
  f.ofInitializerBy? (Expr.fold depth) e

/-- The value of a virtual field on a variable that stands for a static final field with a
trusted initializer. -/
def ofTrusted? (f : VirtualField) (env : Collaborators) (v : Variable ι) : Option Constant :=
  v.field?.bind fun d =>
    if env.trusts d then d.staticInitializer?.bind (f.ofInitializerBy? env.evaluate?)
    else none

end VirtualField

/-- The source of the value of a virtual field. -/
inductive Derivation (ι : Type) where
  /-- The contents of a box. -/
  | unboxed (inner : Value ι)
  /-- The constant that the trusted initializer of a variable's field gives. -/
  | folded (v : Variable ι) (c : Constant)
  /-- The read of the field on a variable, with a type. -/
  | access (v : Variable ι) (type : Option Ty)
  /-- The value that the qualifier is tagged with. -/
  | tagged (value : Value ι)
  /-- The constant that a constant qualifier gives. -/
  | literal (c : Constant)
  /-- The default value of the field. -/
  | default

/-- The source of the value of a virtual field on a qualifier, which may be missing.  A
read of the field gets the target type if one is given. -/
def VirtualField.derive {ι : Type} (f : VirtualField) (env : Collaborators)
    (qualifier : Option (Value ι)) (target : Option Ty) : Derivation ι :=
  match f, qualifier with
  | .unbox, some (.boxed inner) => .unboxed inner
  | f, some (.var v) =>
    match f.ofTrusted? env v with
    | some c => .folded v c
    | none => .access v (target <|> f.typeOn? v.type env.types)
  | f, some (.facts s) =>
    match f.extract? s.tag with
    | some value => .tagged value
    | none => .default
  | f, some (.constant c) =>
    match f.ofConstant? c with
    | some c => .literal c
    | none => .default
  | _, _ => .default

/-- The text that shows a value as the value of a virtual field.  Payloads of optional
containers are shown by their presence. -/
def VirtualField.present {ι : Type} (f : VirtualField) (value : Value ι) : String :=
  match f, value with
  | .optionalValue, .constant .null => "empty Optional"
  | .optionalValue, .facts s =>
    if s.nullability = some .notNull then "present Optional" else ""
  | _, value => value.text

end VirtualFields
