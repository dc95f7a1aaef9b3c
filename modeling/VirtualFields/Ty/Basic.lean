import VirtualFields.Ty.Primitive

/-!
# Types

Static types as the analysis sees them: primitive types, named class types with their
type arguments, and arrays.  Types are compared by structure, and they are written the way
the analysed language writes them.
-/

namespace VirtualFields

/-- A static type. -/
inductive Ty where
  | primitive (p : Primitive)
  /-- A class type; without arguments it is a raw type. -/
  | named (className : String) (args : List Ty)
  | array (element : Ty)

namespace Ty

/-- Induction on types: what holds of the primitive types, and of a class type or an array type
if it holds of the arguments or the elements, holds of all types. -/
@[elab_as_elim]
theorem induction {P : Ty → Prop} (primitive : ∀ p, P (.primitive p))
    (named : ∀ c args, (∀ a ∈ args, P a) → P (.named c args))
    (array : ∀ e, P e → P (.array e)) :
  (t : Ty) → P t
  | .primitive p => primitive p
  | .named c args => named c args fun a _ => induction primitive named array a
  | .array e => array e (induction primitive named array e)

/-- The type of lengths and sizes. -/
def int : Ty := .primitive .int

/-- The raw type of a class. -/
def raw (className : String) : Ty := .named className []

/-- The name of a class type. -/
def className? : Ty → Option String
  | .named className _ => some className
  | .primitive _ | .array _ => none

/-- The primitive type a type is. -/
def primitive? : Ty → Option Primitive
  | .primitive p => some p
  | .named .. | .array _ => none

/-- Whether a type is an array type. -/
def isArray : Ty → Bool
  | .array _ => true
  | .primitive _ | .named .. => false

mutual

/-- The text of a type: arguments stand between angle brackets, separated by a comma and
a space, and an array type is its element type followed by a pair of brackets. -/
def text : Ty → String
  | .primitive p => p.keyword
  | .named className [] => className
  | .named className (arg :: args) => className ++ "<" ++ arg.text ++ argTexts args ++ ">"
  | .array element => element.text ++ "[]"

/-- The texts of the arguments after the first, each after its separator. -/
def argTexts : List Ty → String
  | [] => ""
  | arg :: args => ", " ++ arg.text ++ argTexts args

end

/-! ### Equality -/

mutual

/-- Equality of types is decided by structure. -/
def decEq : (s t : Ty) → Decidable (s = t)
  | .primitive p, .primitive q => decidable_of_iff (p = q) (by simp)
  | .named c as, .named d bs =>
    have := decEqList as bs
    decidable_of_iff (c = d ∧ as = bs) (by simp)
  | .array s, .array t =>
    have := decEq s t
    decidable_of_iff (s = t) (by simp)
  | .primitive _, .named .. | .primitive _, .array _ => isFalse nofun
  | .named .., .primitive _ | .named .., .array _ => isFalse nofun
  | .array _, .primitive _ | .array _, .named .. => isFalse nofun

/-- Equality of argument lists is decided argument by argument. -/
def decEqList : (as bs : List Ty) → Decidable (as = bs)
  | [], [] => isTrue rfl
  | a :: as, b :: bs =>
    have := decEq a b
    have := decEqList as bs
    decidable_of_iff (a = b ∧ as = bs) (by simp)
  | [], _ :: _ | _ :: _, [] => isFalse nofun

end

instance : DecidableEq Ty := decEq

end Ty

end VirtualFields
