import VirtualFields.Member.Basic
import VirtualFields.Registry.Basic

/-!
# Variables

A variable names a value by a program element or a virtual field, possibly read on a
qualifying variable, and has the type it was asked for with.  Each variable carries a
reference of type `ι` that identifies it.  Two variables that differ in their references
alone have the same path, `Variable.path`.
-/

namespace VirtualFields

/-- What a variable stands for. -/
inductive Descriptor where
  | element (e : Element)
  /-- A virtual field of the qualifier. -/
  | field (f : VirtualField)
  deriving DecidableEq

namespace Descriptor

/-- The name of what a variable stands for. -/
def name : Descriptor → String
  | element e => e.name
  | field f => f.name

/-- Whether a variable's value cannot change as long as its qualifier stays the same
object. -/
def isStable : Descriptor → Bool
  | field f => f.isStable
  | element (.member (.field f)) => f.modifiers.has .final
  | element (.classRef _) => true
  | element (.member (.method _)) | element (.localVariable ..) => false

end Descriptor

/-- A variable with references of type `ι`. -/
structure Variable (ι : Type) where
  ref : ι
  descriptor : Descriptor
  qualifier : Option (Variable ι)
  type : Option Ty

/-- A variable without its references. -/
abbrev Path := Variable Unit

namespace Variable

variable {ι κ : Type}

/-- The text of a variable: the names from the outermost qualifier on, separated by
dots. -/
def text : Variable ι → String
  | ⟨_, d, none, _⟩ => d.name
  | ⟨_, d, some q, _⟩ => q.text ++ "." ++ d.name

/-- The field declaration that a variable stands for. -/
def field? (v : Variable ι) : Option (Field Expr) :=
  match v.descriptor with
  | .element e => e.field?
  | .field _ => none

/-- The variable with its references renamed. -/
def map (g : ι → κ) : Variable ι → Variable κ
  | ⟨r, d, none, t⟩ => ⟨g r, d, none, t⟩
  | ⟨r, d, some q, t⟩ => ⟨g r, d, some (q.map g), t⟩

/-- The path of a variable. -/
def path (v : Variable ι) : Path :=
  v.map fun _ => ()

/-! ### Equality -/

variable [DecidableEq ι]

/-- Whether two variables have the same structure and the same references. -/
def same : Variable ι → Variable ι → Bool
  | ⟨r, d, none, t⟩, ⟨r', d', none, t'⟩ => r = r' && d = d' && t = t'
  | ⟨r, d, some q, t⟩, ⟨r', d', some q', t'⟩ => r = r' && d = d' && t = t' && same q q'
  | _, _ => false

theorem same_iff : (v w : Variable ι) →
  (same v w ↔ v = w)
  | ⟨_, _, none, _⟩, ⟨_, _, none, _⟩ => by simp [same, and_assoc]
  | ⟨_, _, none, _⟩, ⟨_, _, some _, _⟩ => by simp [same]
  | ⟨_, _, some _, _⟩, ⟨_, _, none, _⟩ => by simp [same]
  | ⟨_, _, some q, _⟩, ⟨_, _, some q', _⟩ => by
    simp [same, same_iff q q']
    grind

instance : DecidableEq (Variable ι) :=
  fun v w => decidable_of_iff _ (same_iff v w)

end Variable

end VirtualFields
