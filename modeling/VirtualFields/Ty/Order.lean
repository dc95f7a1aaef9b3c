import VirtualFields.Ty.Basic

/-!
# The order of types

Primitive types come first, in the order of their declaration; then class types, by name
and then by their argument lists, compared lexicographically; then array types, by element
type.  Names are compared by code points, which is also the order of their UTF-8 bytes.
-/

namespace VirtualFields.Ty

mutual

/-- The order of types. -/
def compare : Ty → Ty → Ordering
  | .primitive p, .primitive q => Ord.compare p q
  | .named c as, .named d bs => (Ord.compare c d).then (compareList as bs)
  | .array s, .array t => compare s t
  | .primitive _, .named .. | .primitive _, .array _ | .named .., .array _ => .lt
  | .named .., .primitive _ | .array _, .primitive _ | .array _, .named .. => .gt

/-- The lexicographic order of argument lists, a shorter list before its extensions. -/
def compareList : List Ty → List Ty → Ordering
  | [], [] => .eq
  | [], _ :: _ => .lt
  | _ :: _, [] => .gt
  | a :: as, b :: bs => (compare a b).then (compareList as bs)

end

instance : Ord Ty := ⟨compare⟩

/-- A list of types in ascending order. -/
def sort (ts : List Ty) : List Ty :=
  ts.mergeSort fun s t => (compare s t).isLE

/-- The number of neighbours in a list that are equal. -/
def equalNeighbours : List Ty → Nat
  | s :: t :: ts => (if s = t then 1 else 0) + equalNeighbours (t :: ts)
  | [] | [_] => 0

end VirtualFields.Ty
