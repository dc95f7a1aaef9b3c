/-!
# Lengths in UTF-16 units

The analysed language measures strings in UTF-16 units: a character of the basic plane
takes one unit, every other character takes two.
-/

namespace VirtualFields.Text

/-- The number of UTF-16 units of a character. -/
def units (c : Char) : Nat :=
  if c.toNat < 0x10000 then 1 else 2

/-- The number of UTF-16 units of a string. -/
def unitLength (s : String) : Nat :=
  s.toList.foldr (fun c n => units c + n) 0

end VirtualFields.Text
