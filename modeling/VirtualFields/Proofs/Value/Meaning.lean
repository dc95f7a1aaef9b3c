import Mathlib.Tactic.Use
import VirtualFields.Derivation.Basic

/-!
# The objects that a value describes

The objects of the analysed program, as far as virtual fields can tell them apart, and the
virtual fields as partial functions on objects, `VirtualField.on?`.  A value describes the
objects it may stand for, `Value.Describes`; the default value of a virtual field describes
whatever the field is on any object.
-/

namespace VirtualFields

/-! ### Objects -/

/-- A number of elements or characters that an `int` can hold. -/
structure Length where
  count : Nat
  isLt : count < 0x80000000
  deriving DecidableEq

/-- A primitive value that can be boxed. -/
inductive Scalar where
  | int (v : Int32)
  | long (v : Int64)
  | bool (b : Bool)
  | char (c : Char)
  deriving DecidableEq

/-- A primitive value as a constant. -/
def Scalar.constant : Scalar → Constant
  | int v => .int v
  | long v => .long v
  | bool b => .bool b
  | char c => .char c

/-- An object or a primitive value of the analysed program. -/
inductive Object where
  | constant (c : Constant)
  | array (length : Length)
  | collection (size : Length)
  | map (size : Length)
  /-- The box of a primitive value. -/
  | box (s : Scalar)
  /-- The optional container that holds nothing. -/
  | empty
  /-- The optional container that holds an object. -/
  | present (payload : Object)
  deriving DecidableEq

namespace Object

/-- A length as a value of the analysed program. -/
def ofLength (n : Length) : Object :=
  .constant (.int (.ofNat n.count))

/-- The integer that an object is. -/
def integer? : Object → Option Int64
  | constant (.int v) => some v.toInt64
  | constant (.long v) => some v
  | constant (.bool _) | constant (.char _) | constant (.str _) | constant .null => none
  | array _ | collection _ | map _ | box _ | empty | present _ => none

end Object

/-- The value of a virtual field on an object that has the field. -/
def VirtualField.on? : VirtualField → Object → Option Object
  | arrayLength, .array n => some (.ofLength n)
  | stringLength, .constant (.str s) =>
    if h : Text.unitLength s < 0x80000000 then some (.ofLength ⟨Text.unitLength s, h⟩) else none
  | collectionSize, .collection n => some (.ofLength n)
  | mapSize, .map n => some (.ofLength n)
  | unbox, .box s => some (.constant s.constant)
  | optionalValue, .empty => some (.constant .null)
  | optionalValue, .present payload => some payload
  | _, _ => none

/-! ### Descriptions -/

/-- An interval describes the integers in it. -/
def Interval.Describes (i : Interval) (o : Object) : Prop :=
  ∃ v ∈ o.integer?, i.contains v

instance (i : Interval) (o : Object) : Decidable (i.Describes o) :=
  inferInstanceAs (Decidable (∃ v ∈ o.integer?, i.contains v))

/-- A nullability describes the objects that are as it says.  Objects that can be null may
be anything. -/
def Nullability.Describes : Nullability → Object → Prop
  | null, o => o = .constant .null
  | notNull, o => o ≠ .constant .null
  | nullable, _ | unknown, _ => True

instance : (n : Nullability) → (o : Object) → Decidable (n.Describes o)
  | .null, o => inferInstanceAs (Decidable (o = .constant .null))
  | .notNull, o => inferInstanceAs (Decidable (o ≠ .constant .null))
  | .nullable, _ | .unknown, _ => .isTrue trivial

namespace Value

variable {ι : Type}

/-- A value describes the objects it may stand for.  Facts with a tag describe the objects
on which the field of the tag, if they have it, is described by the value of the tag.
Nothing is known of what variables stand for. -/
def Describes : Value ι → Object → Prop
  | constant c, o => o = .constant c
  | var _, _ => True
  | facts ⟨i, n, none⟩, o => (∀ a ∈ i, a.Describes o) ∧ ∀ a ∈ n, a.Describes o
  | facts ⟨i, n, some ⟨f, v⟩⟩, o =>
    (∀ a ∈ i, a.Describes o) ∧ (∀ a ∈ n, a.Describes o) ∧ ∀ x ∈ f.on? o, v.Describes x
  | boxed v, o => ∃ s, o = .box s ∧ v.Describes (.constant s.constant)
  | unknown, _ => True

theorem describes_facts_iff {s : Facts (Value ι)} {o : Object} :
  (facts s).Describes o ↔ (∀ i ∈ s.interval, i.Describes o)
    ∧ (∀ n ∈ s.nullability, n.Describes o)
    ∧ ∀ tag ∈ s.tag, ∀ x ∈ tag.field.on? o, tag.value.Describes x
  := by
  obtain ⟨i, n, _ | ⟨f, v⟩⟩ := s
  · simp [Describes]
  · simp [Describes]

theorem describes_ofInterval_iff {i : Interval} {o : Object} :
  (ofInterval i : Value ι).Describes o ↔ i.Describes o
  := by
  simp [ofInterval, Describes]

theorem describes_ofNullability_iff {n : Nullability} {o : Object} :
  (ofNullability n : Value ι).Describes o ↔ n.Describes o
  := by
  simp [ofNullability, Describes]

theorem describes_boxed_iff {v : Value ι} {o : Object} :
  (boxed v).Describes o ↔ ∃ s, o = .box s ∧ v.Describes (.constant s.constant)
  := by
  rw [Describes]

/-- Whether a value describes an object. -/
def decideDescribes : (v : Value ι) → (o : Object) → Decidable (v.Describes o)
  | constant c, o => inferInstanceAs (Decidable (o = .constant c))
  | var _, _ => .isTrue trivial
  | facts ⟨i, n, none⟩, o =>
    inferInstanceAs (Decidable ((∀ a ∈ i, a.Describes o) ∧ ∀ a ∈ n, a.Describes o))
  | facts ⟨i, n, some ⟨f, v⟩⟩, o =>
    have (x : Object) : Decidable (v.Describes x) := v.decideDescribes x
    inferInstanceAs (Decidable ((∀ a ∈ i, a.Describes o) ∧ (∀ a ∈ n, a.Describes o)
      ∧ ∀ x ∈ f.on? o, v.Describes x))
  | boxed v, .box s =>
    have := v.decideDescribes (.constant s.constant)
    decidable_of_iff (v.Describes (.constant s.constant)) (by simp [Describes])
  | boxed _, .constant _ | boxed _, .array _ | boxed _, .collection _ | boxed _, .map _
  | boxed _, .empty | boxed _, .present _ => .isFalse (by simp [Describes])
  | unknown, _ => .isTrue trivial

instance (v : Value ι) (o : Object) : Decidable (v.Describes o) :=
  v.decideDescribes o

/-- A value without variables. -/
def VariableFree : Value ι → Prop
  | constant _ | facts ⟨_, _, none⟩ | unknown => True
  | facts ⟨_, _, some ⟨_, v⟩⟩ | boxed v => v.VariableFree
  | var _ => False

theorem variableFree_facts_iff {s : Facts (Value ι)} :
  (facts s).VariableFree ↔ ∀ tag ∈ s.tag, tag.value.VariableFree
  := by
  obtain ⟨i, n, _ | ⟨f, v⟩⟩ := s
  · simp [VariableFree]
  · simp [VariableFree]

end Value

/-! ### Default values -/

theorem Interval.lengths_describes (n : Length) :
  Interval.lengths.Describes (.ofLength n)
  := by
  have htoInt : (Int32.ofNat n.count).toInt = n.count := Int32.toInt_ofNat_of_lt n.isLt
  use (Int32.ofNat n.count).toInt64, rfl
  rw [contains, Bool.and_eq_true, decide_eq_true_iff, decide_eq_true_iff, Int64.le_iff_toInt_le,
    Int64.le_iff_toInt_le, Int32.toInt_toInt64, htoInt]
  constructor
  · exact Int.natCast_nonneg n.count
  · have hmax : Interval.lengths.max.toInt = 0x7fffffff := rfl
    have hlt := n.isLt
    omega

namespace VirtualField

variable {ι : Type}

/-- The length of a string is a length. -/
theorem on?_str_eq_some_iff {s : String} {x : Object} :
  stringLength.on? (.constant (.str s)) = some x
    ↔ ∃ h : Text.unitLength s < 0x80000000, x = .ofLength ⟨Text.unitLength s, h⟩
  := by
  rw [on?]
  split
  next h => simp [h, eq_comm]
  next h => simp [h]

/-- The virtual fields other than the contents of boxes and optional containers are
lengths. -/
theorem exists_length_of_on? {f : VirtualField} {o x : Object} (hbox : f ≠ unbox)
    (hoptional : f ≠ optionalValue) (hx : f.on? o = some x) :
  ∃ n, x = .ofLength n
  := by
  cases f with
  | arrayLength =>
    cases o with
    | array n => exact ⟨n, (Option.some.inj hx).symm⟩
    | _ => contradiction
  | stringLength =>
    cases o with
    | constant c =>
      cases c with
      | str s =>
        obtain ⟨h, rfl⟩ := on?_str_eq_some_iff.mp hx
        exact ⟨_, rfl⟩
      | _ => contradiction
    | _ => contradiction
  | collectionSize =>
    cases o with
    | collection n => exact ⟨n, (Option.some.inj hx).symm⟩
    | _ => contradiction
  | mapSize =>
    cases o with
    | map n => exact ⟨n, (Option.some.inj hx).symm⟩
    | _ => contradiction
  | unbox => contradiction
  | optionalValue => contradiction

/-- The default value of a virtual field describes the field on every object. -/
theorem describes_defaultValue {f : VirtualField} {o x : Object} (hx : f.on? o = some x) :
  (f.defaultValue : Value ι).Describes x
  := by
  cases f with
  | unbox => exact trivial
  | optionalValue => exact Value.describes_ofNullability_iff.mpr trivial
  | _ =>
    obtain ⟨n, rfl⟩ := exists_length_of_on? (by decide) (by decide) hx
    exact Value.describes_ofInterval_iff.mpr (Interval.lengths_describes n)

/-- Default values are without variables. -/
theorem variableFree_defaultValue (f : VirtualField) :
  (f.defaultValue : Value ι).VariableFree
  := by
  cases f with
  | _ => exact trivial

end VirtualField

end VirtualFields
