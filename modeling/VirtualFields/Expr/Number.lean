import VirtualFields.Constant

/-!
# Numbers

Numeric constants after unary promotion: a character counts as the `int` of its code
point.  Arithmetic is done on machine words; binary operators on an `int` and a `long`
widen the `int` first.
-/

namespace VirtualFields

/-- A promoted numeric constant. -/
inductive Number where
  | int (v : Int32)
  | long (v : Int64)
  deriving DecidableEq

/-- The promoted value of a numeric constant. -/
def Constant.number? : Constant → Option Number
  | int v => some (.int v)
  | long v => some (.long v)
  | char c => some (.int (Int32.ofNat c.toNat))
  | bool _ | str _ | null => none

namespace Number

/-- The constant of a number. -/
def toConstant : Number → Constant
  | int v => .int v
  | long v => .long v

/-- The integer a number stands for. -/
def toInt : Number → Int
  | int v => v.toInt
  | long v => v.toInt

/-- A number as a `long`. -/
def widen : Number → Int64
  | int v => v.toInt64
  | long v => v

/-- The negative of a number, in its own width. -/
def neg : Number → Number
  | int v => .int (-v)
  | long v => .long (-v)

/-- The bitwise complement of a number. -/
def complement : Number → Number
  | int v => .int (~~~v)
  | long v => .long (~~~v)

end Number

end VirtualFields
