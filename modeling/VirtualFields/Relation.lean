/-!
# Comparison relations

The six relations by which numbers are compared, in initializers and in contracts.
-/

namespace VirtualFields

/-- A comparison relation. -/
inductive Relation where
  | eq
  | ne
  | lt
  | le
  | gt
  | ge
  deriving DecidableEq

namespace Relation

/-- The symbol of a relation. -/
def symbol : Relation → String
  | eq => "=="
  | ne => "!="
  | lt => "<"
  | le => "<="
  | gt => ">"
  | ge => ">="

/-- The relation that holds exactly where the given one fails. -/
def negated : Relation → Relation
  | eq => ne
  | ne => eq
  | lt => ge
  | le => gt
  | gt => le
  | ge => lt

/-- Whether a relation holds between two words read as signed integers. -/
def holds {w : Nat} (r : Relation) (a b : BitVec w) : Bool :=
  match r with
  | eq => a == b
  | ne => a != b
  | lt => a.slt b
  | le => a.sle b
  | gt => b.slt a
  | ge => b.sle a

end Relation

end VirtualFields
