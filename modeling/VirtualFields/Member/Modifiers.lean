/-!
# Declaration modifiers

The modifiers a field or a method is declared with, and sets of modifiers as words with
one bit for each modifier.
-/

namespace VirtualFields

/-- A declaration modifier, in the order of its bit. -/
inductive Modifier where
  | publicAccess
  | privateAccess
  | protectedAccess
  | static
  | final
  | volatile
  | transient
  deriving DecidableEq

namespace Modifier

/-- The modifiers in the order of their bits. -/
def all : List Modifier :=
  [publicAccess, privateAccess, protectedAccess, static, final, volatile, transient]

/-- The position of a modifier's bit. -/
def bit : Modifier → Nat
  | publicAccess => 0
  | privateAccess => 1
  | protectedAccess => 2
  | static => 3
  | final => 4
  | volatile => 5
  | transient => 6

end Modifier

/-- A set of modifiers. -/
structure Modifiers where
  bits : BitVec 7
  deriving DecidableEq

namespace Modifiers

instance : EmptyCollection Modifiers := ⟨⟨0⟩⟩

instance : Union Modifiers := ⟨fun a b => ⟨a.bits ||| b.bits⟩⟩

instance : Inter Modifiers := ⟨fun a b => ⟨a.bits &&& b.bits⟩⟩

instance : SDiff Modifiers := ⟨fun a b => ⟨a.bits &&& ~~~b.bits⟩⟩

/-- The set of a single modifier. -/
def single (m : Modifier) : Modifiers :=
  ⟨BitVec.twoPow 7 m.bit⟩

/-- The set of the modifiers in a list. -/
def ofList (ms : List Modifier) : Modifiers :=
  ms.foldl (fun s m => s ∪ single m) ∅

/-- The set of all modifiers. -/
def full : Modifiers := ofList Modifier.all

/-- Whether a set has a modifier. -/
def has (s : Modifiers) (m : Modifier) : Bool :=
  s.bits.getLsbD m.bit

/-- The modifiers of a set in the order of their bits. -/
def toList (s : Modifiers) : List Modifier :=
  Modifier.all.filter s.has

/-- Whether a set contains all modifiers of another. -/
def contains (a b : Modifiers) : Bool :=
  a ∩ b = b

/-- Whether two sets share a modifier. -/
def intersects (a b : Modifiers) : Bool :=
  a ∩ b ≠ ∅

/-- Whether a set comes before another in the order of their words. -/
def precedes (a b : Modifiers) : Bool :=
  a.bits < b.bits

/-- Whether a set has both `static` and `final`. -/
def isStaticFinal (s : Modifiers) : Bool :=
  s.has .static && s.has .final

end Modifiers

end VirtualFields
