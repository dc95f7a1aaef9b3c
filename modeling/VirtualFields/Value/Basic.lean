import VirtualFields.Constant
import VirtualFields.Value.Facts
import VirtualFields.Value.Variable

/-!
# Values

A value as the analysis knows it: a constant, a variable, a bundle of facts, the box of
another value, or nothing known.  Values hold variables with references of type `ι`; two
values that differ in references alone have the same shape, `Value.shape`.
-/

namespace VirtualFields

/-- A value with references of type `ι`. -/
inductive Value (ι : Type) where
  | constant (c : Constant)
  | var (v : Variable ι)
  | facts (s : Facts (Value ι))
  /-- The box of a value. -/
  | boxed (inner : Value ι)
  | unknown

/-- A value without its references. -/
abbrev Shape := Value Unit

namespace Value

variable {ι κ : Type}

/-- The value known by an interval. -/
def ofInterval (i : Interval) : Value ι := .facts { interval := some i }

/-- The value known by its nullability. -/
def ofNullability (n : Nullability) : Value ι := .facts { nullability := some n }

/-- The constant that a value is. -/
def constant? : Value ι → Option Constant
  | constant c => some c
  | var _ | facts _ | boxed _ | unknown => none

/-- The facts that a value is known by. -/
def facts? : Value ι → Option (Facts (Value ι))
  | facts s => some s
  | constant _ | var _ | boxed _ | unknown => none

/-- The tag on a value. -/
def tag? (v : Value ι) : Option (Tag (Value ι)) :=
  v.facts?.bind (·.tag)

/-- The texts of facts, given the text of the tag. -/
def factTexts (nullability : Option Nullability) (interval : Option Interval)
    (tag : Option String) : List String :=
  (nullability.map Nullability.text).toList ++ (interval.map Interval.text).toList ++ tag.toList

/-- The text of a value.  Facts are listed in the order nullability, interval, tag. -/
def text : Value ι → String
  | constant c => c.literal
  | var v => v.text
  | facts ⟨i, n, none⟩ => ", ".intercalate (factTexts n i none)
  | facts ⟨i, n, some ⟨f, v⟩⟩ => ", ".intercalate (factTexts n i (f.name ++ " = " ++ v.text))
  | boxed inner => "box(" ++ inner.text ++ ")"
  | unknown => "<unknown>"

/-- The value with its references renamed. -/
def map (g : ι → κ) : Value ι → Value κ
  | constant c => .constant c
  | var v => .var (v.map g)
  | facts ⟨i, n, none⟩ => .facts ⟨i, n, none⟩
  | facts ⟨i, n, some ⟨f, v⟩⟩ => .facts ⟨i, n, some ⟨f, v.map g⟩⟩
  | boxed inner => .boxed (inner.map g)
  | unknown => .unknown

/-- The shape of a value. -/
def shape (v : Value ι) : Shape :=
  v.map fun _ => ()

/-! ### Equality -/

variable [DecidableEq ι]

/-- Whether two values have the same structure and the same references. -/
def same : Value ι → Value ι → Bool
  | constant c, constant d => c = d
  | var v, var w => v = w
  | facts ⟨i, n, none⟩, facts ⟨i', n', none⟩ => i = i' && n = n'
  | facts ⟨i, n, some ⟨f, v⟩⟩, facts ⟨i', n', some ⟨f', v'⟩⟩ =>
    i = i' && n = n' && f = f' && same v v'
  | boxed v, boxed w => same v w
  | unknown, unknown => true
  | _, _ => false

theorem same_iff : (v w : Value ι) →
  (same v w ↔ v = w)
  | constant _, w => by cases w <;> simp [same]
  | var _, w => by cases w <;> simp [same]
  | facts ⟨_, _, none⟩, w => by
    rcases w with _ | _ | ⟨_, _, _ | _⟩ | _ | _ <;> simp [same]
  | facts ⟨_, _, some ⟨_, v⟩⟩, w => by
    rcases w with _ | _ | ⟨_, _, _ | ⟨_, w⟩⟩ | _ | _ <;> simp [same, same_iff v, and_assoc]
  | boxed v, w => by cases w <;> simp [same, same_iff v]
  | unknown, w => by cases w <;> simp [same]

instance : DecidableEq (Value ι) :=
  fun v w => decidable_of_iff _ (same_iff v w)

/-- Whether two values are the same variable, told by its reference. -/
def sameVariable : Value ι → Value ι → Bool
  | var v, var w => v.ref = w.ref
  | _, _ => false

end Value

/-- The text of a virtual field with its value. -/
def Tag.text {ι : Type} (t : Tag (Value ι)) : String :=
  t.field.name ++ " = " ++ t.value.text

/-- The text of facts. -/
def Facts.text {ι : Type} (s : Facts (Value ι)) : String :=
  (Value.facts s).text

end VirtualFields
