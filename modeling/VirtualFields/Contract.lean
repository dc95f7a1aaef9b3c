import VirtualFields.Constant
import VirtualFields.Registry.Basic
import VirtualFields.Relation

/-!
# Method contracts

A contract says what a method returns under a condition on its receiver and its
arguments.  The condition is a constraint on each argument, a comparison of two terms, or
missing.
-/

namespace VirtualFields

namespace Contract

/-- What a method does when a contract applies. -/
inductive Outcome where
  | returnsAny
  | returnsTrue
  | returnsFalse
  | returnsNull
  | returnsNotNull
  | fails
  deriving DecidableEq

/-- The text of an outcome. -/
def Outcome.text : Outcome → String
  | returnsAny => "_"
  | returnsTrue => "true"
  | returnsFalse => "false"
  | returnsNull => "null"
  | returnsNotNull => "!null"
  | fails => "fail"

/-- A constraint on an argument. -/
inductive Constraint where
  | any
  | null
  | notNull
  | isTrue
  | isFalse
  deriving DecidableEq

/-- The text of a constraint. -/
def Constraint.text : Constraint → String
  | any => "_"
  | null => "null"
  | notNull => "!null"
  | isTrue => "true"
  | isFalse => "false"

/-- A value that a condition speaks about. -/
inductive Term where
  /-- The object that the method is called on. -/
  | receiver
  /-- An argument of the call, counted from zero. -/
  | argument (index : UInt32)
  | constant (c : Constant)
  /-- A virtual field of another term. -/
  | field (base : Term) (f : VirtualField)
  deriving DecidableEq

namespace Term

/-- The constant zero. -/
def zero : Term := .constant (.int 0)

/-- The constant `null`. -/
def null : Term := .constant .null

/-- The text of a term. -/
def text : Term → String
  | receiver => "this"
  | argument index => "arg" ++ toString index.toNat
  | constant c => c.literal
  | field base f => base.text ++ "." ++ f.name

end Term

/-- A comparison of two terms. -/
structure Condition where
  left : Term
  relation : Relation
  right : Term
  deriving DecidableEq

/-- The text of a condition. -/
def Condition.text (c : Condition) : String :=
  c.left.text ++ " " ++ c.relation.symbol ++ " " ++ c.right.text

end Contract

open Contract in
/-- A method contract. -/
inductive Contract where
  /-- The outcome when each argument meets its constraint. -/
  | onArguments (constraints : List Constraint) (outcome : Outcome)
  /-- The outcome when a condition holds. -/
  | onCondition (condition : Condition) (outcome : Outcome)
  /-- The outcome in all cases that are left. -/
  | otherwise (outcome : Outcome)
  deriving DecidableEq

namespace Contract

/-- The outcome of a contract. -/
def outcome : Contract → Outcome
  | onArguments _ o | onCondition _ o | otherwise o => o

/-- The text of a contract. -/
def text : Contract → String
  | onArguments constraints o =>
    ", ".intercalate (constraints.map Constraint.text) ++ " -> " ++ o.text
  | onCondition condition o => condition.text ++ " -> " ++ o.text
  | otherwise o => "-> " ++ o.text

end Contract

namespace VirtualField

/-- The contracts of a method that tells whether a virtual field is zero. -/
def emptyContracts (f : VirtualField) : List Contract := [
  .onCondition ⟨.field .receiver f, .eq, .zero⟩ .returnsTrue,
  .otherwise .returnsFalse]

/-- The contracts of an equality test whose result depends on a virtual field. -/
def equalsContracts (f : VirtualField) : List Contract := [
  .onArguments [.null] .returnsFalse,
  .onCondition ⟨.field .receiver f, .ne, .field (.argument 0) f⟩ .returnsFalse]

end VirtualField

end VirtualFields
