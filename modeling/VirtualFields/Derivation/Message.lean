import VirtualFields.Level
import VirtualFields.Value.Basic

/-!
# Messages

What the analysis reports while it works: new variables, and the sources from which it
derived values without a new variable.
-/

namespace VirtualFields

/-- The identity of a variable: the label of its table and its position there. -/
structure Ref where
  table : Nat
  position : Nat
  deriving DecidableEq

/-- A message about variables and values. -/
inductive Message where
  /-- A variable was added to its table, which then has the given size. -/
  | interned (v : Variable Ref) (size : Nat)
  | unboxed (f : VirtualField) (inner : Value Ref)
  | folded (f : VirtualField) (v : Variable Ref) (value : Value Ref)
  | reused (f : VirtualField) (value : Value Ref)
  deriving DecidableEq

namespace Message

/-- The level of a message. -/
def level : Message → Level
  | interned .. => .debug
  | unboxed .. | folded .. | reused .. => .trace

/-- The text of a message. -/
def text : Message → String
  | interned v size =>
    "New variable value " ++ v.text ++ " (type " ++ (v.type.map Ty.text).getD "?" ++ "). "
      ++ toString size ++ " variables interned."
  | unboxed f inner => f.name ++ ": unboxing boxed representation " ++ inner.text
  | folded f v value =>
    f.name ++ ": folded initializer of " ++ v.text ++ " to " ++ value.text
  | reused f value => f.name ++ ": reusing tagged value " ++ value.text

/-- The line that shows a message. -/
def line (m : Message) : String :=
  m.level.line m.text

end Message

end VirtualFields
