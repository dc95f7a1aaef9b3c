import VirtualFields.Registry.Basic
import VirtualFields.Value.Interval

/-!
# Facts

What may be known about a value without knowing the value: an interval it lies in, whether
it can be null, and the value of one of its virtual fields.  A fact of a kind replaces the
fact of the same kind given before; all virtual fields together are one kind.
-/

namespace VirtualFields

/-- What is known about a value being null. -/
inductive Nullability where
  | null
  /-- The value can be null, and its users are expected to check. -/
  | nullable
  | notNull
  | unknown
  deriving DecidableEq

/-- The text of a nullability. -/
def Nullability.text : Nullability → String
  | null => "null"
  | nullable => "Nullable"
  | notNull => "non-null"
  | unknown => "unknown"

/-- A virtual field together with its value. -/
structure Tag (α : Type) where
  field : VirtualField
  value : α
  deriving DecidableEq

/-- Facts about a value, with tag values of type `α`. -/
structure Facts (α : Type) where
  interval : Option Interval := none
  nullability : Option Nullability := none
  tag : Option (Tag α) := none
  deriving DecidableEq

namespace Facts

variable {α : Type}

/-- The facts with another interval. -/
def withInterval (s : Facts α) (i : Interval) : Facts α :=
  { s with interval := some i }

/-- The facts with another nullability. -/
def withNullability (s : Facts α) (n : Nullability) : Facts α :=
  { s with nullability := some n }

/-- The facts with another tag. -/
def withTag (s : Facts α) (t : Tag α) : Facts α :=
  { s with tag := some t }

/-- Whether nothing is known. -/
def isEmpty (s : Facts α) : Bool :=
  s.interval.isNone && s.nullability.isNone && s.tag.isNone

end Facts

/-- The value of a tag, if it is a tag of the given field. -/
def VirtualField.extract? {α : Type} (f : VirtualField) (tag : Option (Tag α)) : Option α :=
  (tag.filter (·.field = f)).map (·.value)

end VirtualFields
