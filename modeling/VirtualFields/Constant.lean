import VirtualFields.Text.Escape

/-!
# Constants

The literal values that an initializer may be folded to.  A constant has two texts: the
one a string concatenation appends, and the one that shows the constant as a literal of
the analysed language.
-/

namespace VirtualFields

/-- A literal value. -/
inductive Constant where
  | int (v : Int32)
  | long (v : Int64)
  | bool (b : Bool)
  | char (c : Char)
  | str (s : String)
  | null
  deriving DecidableEq

namespace Constant

/-- The text of a truth value. -/
def boolText (b : Bool) : String :=
  if b then "true" else "false"

/-- The text that a string concatenation appends for a constant. -/
def text : Constant → String
  | int v => toString v.toInt
  | long v => toString v.toInt
  | bool b => boolText b
  | char c => String.singleton c
  | str s => s
  | null => "null"

/-- The literal that denotes a constant: longs end in `L`, characters and strings are
quoted and escaped. -/
def literal : Constant → String
  | int v => toString v.toInt
  | long v => toString v.toInt ++ "L"
  | bool b => boolText b
  | char c => Text.quotedChar c
  | str s => Text.quoted s
  | null => "null"

/-- Whether a constant is a string. -/
def isString : Constant → Bool
  | str _ => true
  | int _ | long _ | bool _ | char _ | null => false

end Constant

end VirtualFields
