import VirtualFields.Expr.Number
import VirtualFields.Relation

/-!
# Operators on constants

The unary and binary operators of constant expressions and their values on constants.  An
operator that is not defined on its operands has no value; division and remainder by zero
have none either.  Words wrap around, and quotients are truncated toward zero.
-/

namespace VirtualFields

/-- A unary operator. -/
inductive UnaryOp where
  | neg
  | bitNot
  | not
  deriving DecidableEq

/-- An arithmetic operator. -/
inductive Arithmetic where
  | add
  | sub
  | mul
  | div
  | rem
  deriving DecidableEq

/-- A shift operator; `right` keeps the sign and `rightUnsigned` does not. -/
inductive Shift where
  | left
  | right
  | rightUnsigned
  deriving DecidableEq

/-- A bitwise operator. -/
inductive Bitwise where
  | and
  | or
  | xor
  deriving DecidableEq

/-- A logical operator. -/
inductive Logical where
  | and
  | or
  deriving DecidableEq

/-- A binary operator. -/
inductive BinaryOp where
  | arithmetic (op : Arithmetic)
  | shift (op : Shift)
  | bitwise (op : Bitwise)
  | compare (r : Relation)
  | logical (op : Logical)
  deriving DecidableEq

variable {w : Nat}

/-- The value of an arithmetic operator on signed words. -/
def Arithmetic.eval? (op : Arithmetic) (a b : BitVec w) : Option (BitVec w) :=
  match op with
  | add => some (a + b)
  | sub => some (a - b)
  | mul => some (a * b)
  | div => if b = 0 then none else some (a.sdiv b)
  | rem => if b = 0 then none else some (a.srem b)

/-- The value of a bitwise operator on words. -/
def Bitwise.eval (op : Bitwise) (a b : BitVec w) : BitVec w :=
  match op with
  | and => a &&& b
  | or => a ||| b
  | xor => a ^^^ b

/-- The value of a shift operator on a word.  Only the amount modulo the width counts. -/
def Shift.eval (op : Shift) (a : BitVec w) (amount : Int) : BitVec w :=
  let k := (amount % w).toNat
  match op with
  | left => a <<< k
  | right => a.sshiftRight k
  | rightUnsigned => a >>> k

/-- The value of a unary operator on a constant. -/
def UnaryOp.eval? : UnaryOp → Constant → Option Constant
  | neg, c => c.number?.map fun n => n.neg.toConstant
  | bitNot, c => c.number?.map fun n => n.complement.toConstant
  | not, .bool b => some (.bool !b)
  | not, _ => none

namespace BinaryOp

/-- The value of a binary operator on truth values. -/
def onBools (op : BinaryOp) (a b : Bool) : Option Bool :=
  match op with
  | logical .and | bitwise .and => some (a && b)
  | logical .or | bitwise .or => some (a || b)
  | bitwise .xor | compare .ne => some (a ^^ b)
  | compare .eq => some (a == b)
  | _ => none

/-- The value of a binary operator on promoted words, where `wrap` makes a word a
constant. -/
def onWords (op : BinaryOp) (wrap : BitVec w → Constant) (a b : BitVec w) : Option Constant :=
  match op with
  | arithmetic op => (op.eval? a b).map wrap
  | bitwise op => some (wrap (op.eval a b))
  | compare r => some (.bool (r.holds a b))
  | shift _ | logical _ => none

/-- The constant of a 32-bit word. -/
def wrapInt (a : BitVec 32) : Constant := .int (.ofBitVec a)

/-- The constant of a 64-bit word. -/
def wrapLong (a : BitVec 64) : Constant := .long (.ofBitVec a)

/-- The value of a binary operator on numbers.  The left operand alone fixes the width of
a shift; otherwise the operation is done on `int` words if both operands are `int`, and on
`long` words if not. -/
def onNumbers (op : BinaryOp) (a b : Number) : Option Constant :=
  match op, a, b with
  | shift op, .int a, b => some (wrapInt (op.eval a.toBitVec b.toInt))
  | shift op, .long a, b => some (wrapLong (op.eval a.toBitVec b.toInt))
  | op, .int a, .int b => op.onWords wrapInt a.toBitVec b.toBitVec
  | op, a, b => op.onWords wrapLong a.widen.toBitVec b.widen.toBitVec

/-- Whether an operator concatenates its operands: an addition with a string does. -/
def concatenates (op : BinaryOp) (a b : Constant) : Bool :=
  op = arithmetic .add && (a.isString || b.isString)

/-- The value of a binary operator on constants. -/
def eval? (op : BinaryOp) (a b : Constant) : Option Constant :=
  if op.concatenates a b then some (.str (a.text ++ b.text))
  else
    match a, b with
    | .bool a, .bool b => (op.onBools a b).map .bool
    | a, b =>
      match a.number?, b.number? with
      | some a, some b => op.onNumbers a b
      | _, _ => none

end BinaryOp

end VirtualFields
