/-!
# Intervals

Nonempty ranges of 64-bit integers, both ends included.
-/

namespace VirtualFields

/-- A nonempty range of 64-bit integers. -/
structure Interval where
  min : Int64
  max : Int64
  min_le_max : min ≤ max
  deriving DecidableEq

namespace Interval

/-- The interval with given ends, if it is not empty. -/
def ofEnds? (min max : Int64) : Option Interval :=
  if h : min ≤ max then some ⟨min, max, h⟩ else none

/-- The interval of a single integer. -/
def point (v : Int64) : Interval := ⟨v, v, Int64.le_refl v⟩

/-- The interval of all integers. -/
def all : Interval := ⟨Int64.minValue, Int64.maxValue, by decide⟩

/-- The interval of the lengths and sizes that an `int` can hold. -/
def lengths : Interval := ⟨0, Int32.maxValue.toInt64, by decide⟩

/-- Whether an integer lies in an interval. -/
def contains (i : Interval) (v : Int64) : Bool :=
  i.min ≤ v && v ≤ i.max

/-- The integer of an interval that has only one. -/
def point? (i : Interval) : Option Int64 :=
  if i.min = i.max then some i.min else none

/-- The text of an interval. -/
def text (i : Interval) : String :=
  match i.point? with
  | some v => "\x7b" ++ toString v.toInt ++ "\x7d"
  | none => "\x7b" ++ toString i.min.toInt ++ ".." ++ toString i.max.toInt ++ "\x7d"

end Interval

end VirtualFields
