import VirtualFields.Proofs.Expr.Calls

/-!
# Kinds of constants

The kind of a constant is the form of literal it is.  `Expr.kind?` infers the kind of the
constant an expression folds to without looking at any value.  Folding and inference agree:
the constant an expression folds to has the inferred kind, and an expression with a kind
folds to a constant of that kind unless, on the way, a number is divided by zero or a read
exceeds the limit (`Expr.fold_sound`).
-/

namespace VirtualFields

/-- The kind of a constant. -/
inductive Kind where
  | int
  | long
  | bool
  | char
  | str
  | null
  deriving DecidableEq

namespace Kind

/-- The kind of a number after promotion. -/
def promoted? : Kind → Option Kind
  | int | char => some int
  | long => some long
  | bool | str | null => none

/-- The kind that two promoted numbers are widened to. -/
def join : Kind → Kind → Kind
  | int, int => int
  | _, _ => long

end Kind

namespace Constant

/-- The kind of a constant. -/
def kind : Constant → Kind
  | int _ => .int
  | long _ => .long
  | bool _ => .bool
  | char _ => .char
  | str _ => .str
  | null => .null

/-- Whether a constant is the number zero. -/
def isZero (c : Constant) : Bool :=
  c.number?.any (·.toInt = 0)

end Constant

/-- The kind of a promoted number. -/
def Number.kind : Number → Kind
  | int _ => .int
  | long _ => .long

/-- The kind of a unary operator's value. -/
def UnaryOp.kind? : UnaryOp → Kind → Option Kind
  | not, .bool => some .bool
  | not, _ => none
  | neg, k | bitNot, k => k.promoted?

namespace BinaryOp

/-- The kind of a binary operator's value on truth values. -/
def boolKind? : BinaryOp → Option Kind
  | logical _ | bitwise _ | compare .eq | compare .ne => some .bool
  | arithmetic _ | shift _ | compare _ => none

/-- The kind of a binary operator's value on promoted numbers. -/
def numberKind? (op : BinaryOp) (a b : Kind) : Option Kind :=
  match op with
  | shift _ => some a
  | arithmetic _ | bitwise _ => some (a.join b)
  | compare _ => some .bool
  | logical _ => none

/-- The kind of a binary operator's value. -/
def kind? (op : BinaryOp) (a b : Kind) : Option Kind :=
  if op = arithmetic .add ∧ (a = .str ∨ b = .str) then some .str
  else
    match a, b with
    | .bool, .bool => op.boolKind?
    | a, b => a.promoted?.bind fun a => b.promoted?.bind fun b => op.numberKind? a b

/-- Whether an operator divides by its right operand. -/
def divides : BinaryOp → Bool
  | arithmetic .div | arithmetic .rem => true
  | _ => false

end BinaryOp

/-- The kind of the constant that an expression folds to, inferred without its value. -/
def Expr.kind? : Expr → Option Kind
  | .literal c => some c.kind
  | .unary op e => e.kind?.bind op.kind?
  | .binary op d e => d.kind?.bind fun a => e.kind?.bind fun b => op.kind? a b
  | .read ⟨decl, _, _, some e⟩ => if decl.modifiers.isStaticFinal then e.kind? else none
  | .read ⟨_, _, _, none⟩ => none
  | .arrayLiteral _ | .newArray .. | .newArrayOf .. | .opaqueText _ => none

@[simp]
theorem Expr.kind?_read (f : Field Expr) :
  (read f).kind? = f.staticInitializer?.bind kind?
  := by
  obtain ⟨decl, _, _, _ | e⟩ := f
  · simp [kind?, Field.staticInitializer?]
  · cases h : decl.modifiers.isStaticFinal with
    | true => simp [kind?, Field.staticInitializer?, h]
    | false => simp [kind?, Field.staticInitializer?, h]

/-! ### Kinds of the operators' values -/

theorem Constant.eq_bool_of_kind {c : Constant} (h : c.kind = .bool) :
  ∃ b, c = .bool b
  := by
  cases c with
  | bool b => use b
  | _ => contradiction

theorem Constant.map_kind_number? (c : Constant) :
  c.number?.map Number.kind = c.kind.promoted?
  := by
  cases c with
  | _ => rfl

@[simp]
theorem Number.toInt_widen (n : Number) :
  n.widen.toInt = n.toInt
  := by
  cases n with
  | int v => apply Int32.toInt_toInt64
  | long v => rfl

/-- A unary operator has a value of the kind inferred for it, and no value if no kind is
inferred. -/
theorem UnaryOp.map_kind_eval? (op : UnaryOp) (c : Constant) :
  (op.eval? c).map Constant.kind = op.kind? c.kind
  := by
  cases op with
  | neg => cases c with
    | _ => rfl
  | bitNot => cases c with
    | _ => rfl
  | not => cases c with
    | _ => rfl

theorem toInt_eq_zero_iff {w : Nat} (b : BitVec w) :
  b.toInt = 0 ↔ b = 0
  := by
  rw [← BitVec.toInt_inj, BitVec.ofNat_eq_ofNat, BitVec.toInt_zero]

/-- An arithmetic operator has no value exactly when it divides by zero. -/
theorem Arithmetic.eval?_eq_none_iff {w : Nat} (op : Arithmetic) (a b : BitVec w) :
  op.eval? a b = none ↔ (BinaryOp.arithmetic op).divides ∧ b.toInt = 0
  := by
  cases op with
  | add => simp [eval?, BinaryOp.divides]
  | sub => simp [eval?, BinaryOp.divides]
  | mul => simp [eval?, BinaryOp.divides]
  | div => simp [eval?, BinaryOp.divides, toInt_eq_zero_iff]
  | rem => simp [eval?, BinaryOp.divides, toInt_eq_zero_iff]

namespace BinaryOp

/-- An operator on truth values has a truth value if a kind is inferred for it, and no
value otherwise. -/
theorem map_kind_onBools (op : BinaryOp) (a b : Bool) :
  ((op.onBools a b).map Constant.bool).map Constant.kind = op.boolKind?
  := by
  rcases op with _ | _ | op | r | op
  · rfl
  · rfl
  · cases op with
    | _ => rfl
  · cases r with
    | _ => rfl
  · cases op with
    | _ => rfl

/-- On words, all operators but the shifts have a value of the kind inferred for them,
and no value if they divide by zero or no kind is inferred. -/
theorem map_kind_onWords {w : Nat} {wrap : BitVec w → Constant} {k : Kind}
    (hwrap : ∀ a, (wrap a).kind = k) (hk : k.join k = k) (op : BinaryOp)
    (hop : ∀ s, op ≠ shift s) (a b : BitVec w) :
  (op.onWords wrap a b).map Constant.kind
    = if op.divides ∧ b.toInt = 0 then none else op.numberKind? k k
  := by
  rcases op with op | s | op | r | op
  · simp only [onWords, numberKind?, hk, ← op.eval?_eq_none_iff a b]
    cases h : op.eval? a b with
    | none => simp
    | some c => simp [hwrap]
  · exact absurd rfl (hop s)
  · simp [onWords, numberKind?, divides, hwrap, hk]
  · simp [onWords, numberKind?, divides, Constant.kind]
  · simp [onWords, numberKind?, divides]

/-- For all operators but the shifts only the kind that both operands are widened to
counts. -/
theorem numberKind?_congr (op : BinaryOp) (hop : ∀ s, op ≠ shift s) {a b c d : Kind}
    (h : a.join b = c.join d) :
  op.numberKind? a b = op.numberKind? c d
  := by
  rcases op with op | s | op | r | op
  · simp [numberKind?, h]
  · exact absurd rfl (hop s)
  · simp [numberKind?, h]
  · rfl
  · rfl

/-- Operands that are not both `int` are widened to `long` words by all operators but the
shifts. -/
theorem onNumbers_widen (op : BinaryOp) (hop : ∀ s, op ≠ shift s) {a b : Number}
    (h : a.kind.join b.kind = .long) :
  op.onNumbers a b = op.onWords wrapLong a.widen.toBitVec b.widen.toBitVec
  := by
  apply onNumbers.eq_4
  · rintro s - hs
    exact absurd hs (hop s)
  · rintro s - hs
    exact absurd hs (hop s)
  · rintro _ _ rfl rfl
    contradiction

/-- On numbers, an operator has a value of the kind inferred for it, and no value if it
divides by zero or no kind is inferred. -/
theorem map_kind_onNumbers (op : BinaryOp) (a b : Number) :
  (op.onNumbers a b).map Constant.kind
    = if op.divides ∧ b.toInt = 0 then none else op.numberKind? a.kind b.kind
  := by
  by_cases hop : ∃ s, op = shift s
  · obtain ⟨s, rfl⟩ := hop
    cases a with
    | int a => simp [onNumbers, numberKind?, divides, wrapInt, Constant.kind, Number.kind]
    | long a => simp [onNumbers, numberKind?, divides, wrapLong, Constant.kind, Number.kind]
  · rw [not_exists] at hop
    by_cases h : a.kind.join b.kind = .long
    · have hkind : op.numberKind? a.kind b.kind = op.numberKind? .long .long :=
        numberKind?_congr op hop h
      rw [onNumbers_widen op hop h, map_kind_onWords (k := .long) (fun _ => rfl) rfl op hop,
        Int64.toInt_toBitVec, Number.toInt_widen, hkind]
    · cases a with
      | long a => exact absurd rfl h
      | int a =>
        cases b with
        | long b => exact absurd rfl h
        | int b =>
          rw [onNumbers.eq_3 op a b hop, map_kind_onWords (k := .int) (fun _ => rfl) rfl op hop]
          rfl

/-- An operator concatenates exactly when it is an addition and one of the kinds is that of
strings. -/
theorem concatenates_iff (op : BinaryOp) (a b : Constant) :
  op.concatenates a b ↔ op = arithmetic .add ∧ (a.kind = .str ∨ b.kind = .str)
  := by
  have hstr : ∀ c : Constant, c.isString ↔ c.kind = .str := by
    intro c
    cases c with
    | _ => simp [Constant.isString, Constant.kind]
  simp [concatenates, hstr]

/-- A value that is no concatenation and not one of truth values has the kind inferred from
the promoted operands. -/
theorem kind?_of_numbers (op : BinaryOp) {a b : Kind}
    (hstr : ¬ (op = arithmetic .add ∧ (a = .str ∨ b = .str))) (h : a = .bool → b ≠ .bool) :
  op.kind? a b = a.promoted?.bind fun k => b.promoted?.bind fun l => op.numberKind? k l
  := by
  rw [kind?.eq_def, if_neg hstr]
  split
  · exact absurd rfl (h rfl)
  · rfl

/-- A value that is no concatenation and not one of truth values is a value on the promoted
operands. -/
theorem eval?_of_numbers (op : BinaryOp) {a b : Constant} (hstr : ¬ op.concatenates a b)
    (h : a.kind = .bool → b.kind ≠ .bool) :
  op.eval? a b = a.number?.bind fun m => b.number?.bind fun n => op.onNumbers m n
  := by
  rw [eval?.eq_def, if_neg hstr]
  split
  · exact absurd rfl (h rfl)
  · cases a.number? with
    | none => rfl
    | some m =>
      cases b.number? with
      | none => rfl
      | some n => rfl

/-- On truth values, an operator has a value of the kind inferred for it, and no value if no
kind is inferred. -/
theorem map_kind_eval?_bool (op : BinaryOp) (a b : Bool) :
  (op.eval? (.bool a) (.bool b)).map Constant.kind = op.kind? .bool .bool
  := by
  have hstr : ¬ op.concatenates (.bool a) (.bool b) := by
    simp [concatenates_iff, Constant.kind]
  rw [eval?, if_neg hstr, map_kind_onBools]
  simp [kind?]

/-- An operator has a value of the kind inferred for it, and no value if it divides by zero
or no kind is inferred. -/
theorem map_kind_eval? (op : BinaryOp) (a b : Constant) :
  (op.eval? a b).map Constant.kind
    = if op.divides ∧ b.isZero then none else op.kind? a.kind b.kind
  := by
  by_cases hstr : op.concatenates a b
  · have hkind := (op.concatenates_iff a b).mp hstr
    rw [eval?.eq_def, if_pos hstr, kind?.eq_def, if_pos hkind, hkind.1]
    rfl
  · have hkind := mt (op.concatenates_iff a b).mpr hstr
    by_cases hbool : a.kind = .bool ∧ b.kind = .bool
    · obtain ⟨x, rfl⟩ := Constant.eq_bool_of_kind hbool.1
      obtain ⟨y, rfl⟩ := Constant.eq_bool_of_kind hbool.2
      rw [map_kind_eval?_bool]
      simp [Constant.isZero, Constant.number?, Constant.kind]
    · rw [not_and] at hbool
      rw [op.eval?_of_numbers hstr hbool, op.kind?_of_numbers hkind hbool,
        ← a.map_kind_number?, ← b.map_kind_number?]
      cases a.number? with
      | none => simp
      | some m =>
        cases hb : b.number? with
        | none => simp
        | some n =>
          have hzero : b.isZero ↔ n.toInt = 0 := by
            simp [Constant.isZero, hb]
          simp only [hzero]
          apply map_kind_onNumbers

end BinaryOp

end VirtualFields
