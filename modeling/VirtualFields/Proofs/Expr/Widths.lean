import VirtualFields.Proofs.Expr.Comparisons

/-!
# The widths of words

An operator on two `int`s has the same value as on the two `long`s of the same values, once
that value is narrowed to 32 bits, and an operator on an `int` and a `long` is the operator on
two `long`s (`eval?_narrows`).  Shifts are no such operators, since their width is that of the
left operand and limits the amount.
-/

namespace VirtualFields

/-- Two outcomes of an operator that differ in the width of words only: none at all, the same
truth value, or a `long` and the `int` that it is narrowed to. -/
inductive Narrows : Option Constant → Option Constant → Prop where
  | none : Narrows none none
  | bool (b : Bool) : Narrows (some (.bool b)) (some (.bool b))
  | word (v : Int64) : Narrows (some (.int v.toInt32)) (some (.long v))

/-- A `long` that an `int` is widened to is narrowed to the `int` again. -/
theorem Narrows.widen (v : Int32) :
  Narrows (some (.int v)) (some (.long v.toInt64))
  := by
  have h := Narrows.word v.toInt64
  rwa [Int32.toInt32_toInt64] at h

/-! ### Operators on words of two widths -/

section Words

variable {v w : Nat}

/-- A relation compares words by the integers they stand for, whatever their width is. -/
theorem Relation.holds_congr (r : Relation) {a b : BitVec v} {c d : BitVec w}
    (ha : a.toInt = c.toInt) (hb : b.toInt = d.toInt) :
  r.holds a b = r.holds c d
  := by
  rw [r.holds_eq_decide, r.holds_eq_decide, ha, hb]

/-- A bitwise operator may be applied before its operands are widened. -/
theorem Bitwise.eval_signExtend (op : Bitwise) (a b : BitVec v) :
  op.eval (a.signExtend w) (b.signExtend w) = (op.eval a b).signExtend w
  := by
  cases op with
  | and => simp [eval]
  | or => simp [eval]
  | xor => simp [eval]

end Words

namespace BinaryOp

/-- On two `int`s an operator other than a shift has the narrowed value that it has on the two
`long`s of the same values. -/
theorem onNumbers_narrows (op : BinaryOp) (hop : ∀ s, op ≠ shift s) (a b : Int32) :
  Narrows (op.onNumbers (.int a) (.int b)) (op.onNumbers (.long a.toInt64) (.long b.toInt64))
  := by
  rcases op with op | s | op | r | op
  · have ha : (Number.long a.toInt64).toInt = (Number.int a).toInt := Int32.toInt_toInt64 a
    have hb : (Number.long b.toInt64).toInt = (Number.int b).toInt := Int32.toInt_toInt64 b
    rw [onNumbers_arithmetic, onNumbers_arithmetic, ha, hb]
    cases op.onIntegers? (Number.int a).toInt (Number.int b).toInt with
    | none => apply Narrows.none
    | some u =>
      have h := Narrows.word (.ofInt u)
      rwa [Int64.toInt32_ofInt] at h
  · exact absurd rfl (hop s)
  · have h := Narrows.widen (.ofBitVec (op.eval a.toBitVec b.toBitVec))
    rwa [Int32.toInt64_ofBitVec, ← op.eval_signExtend] at h
  · have h : r.holds a.toBitVec b.toBitVec
        = r.holds a.toInt64.toBitVec b.toInt64.toBitVec := by
      apply r.holds_congr
      · apply (Int32.toInt_toInt64 a).symm
      · apply (Int32.toInt_toInt64 b).symm
    rw [onNumbers.eq_3 _ a b hop, onNumbers_widen _ hop rfl, onWords, onWords, h]
    apply Narrows.bool
  · apply Narrows.none

/-- On two numbers that are not both `int` an operator other than a shift has the value that
it has on the two `long`s of the same values. -/
theorem onNumbers_eq_onNumbers_widen (op : BinaryOp) (hop : ∀ s, op ≠ shift s) {m n : Number}
    (h : m.kind.join n.kind = .long) :
  op.onNumbers m n = op.onNumbers (.long m.widen) (.long n.widen)
  := by
  rw [op.onNumbers_widen hop h, op.onNumbers_widen hop rfl]
  rfl

end BinaryOp

/-- On an `int` a unary operator has the narrowed value that it has on the `long` of the same
value. -/
theorem UnaryOp.narrows_eval? (op : UnaryOp) {x : Constant} {a : Int32}
    (hx : x.number? = some (.int a)) :
  Narrows (op.eval? x) (op.eval? (.long a.toInt64))
  := by
  cases op with
  | neg =>
    have h := Narrows.word (-a.toInt64)
    rw [Int64.toInt32_neg, Int32.toInt32_toInt64] at h
    rwa [eval?, hx]
  | bitNot =>
    have h := Narrows.word (~~~a.toInt64)
    rw [Int64.toInt32_not, Int32.toInt32_toInt64] at h
    rwa [eval?, hx]
  | not =>
    cases x with
    | bool => contradiction
    | _ => apply Narrows.none

/-- Folding on 32 bits agrees with folding on 64 bits.  On `int`s, and on characters promoted
to `int`s, an operator other than a shift has the narrowed value that it has on the `long`s of
the same values; on an `int` and any `long`, on either side, it has the value that it has on
two `long`s. -/
theorem eval?_narrows {x y : Constant} {a b : Int32} (hx : x.number? = some (.int a))
    (hy : y.number? = some (.int b)) :
  (∀ op : BinaryOp, (∀ s, op ≠ .shift s) →
      Narrows (op.eval? x y) (op.eval? (.long a.toInt64) (.long b.toInt64))
        ∧ ∀ v : Int64, op.eval? x (.long v) = op.eval? (.long a.toInt64) (.long v)
          ∧ op.eval? (.long v) y = op.eval? (.long v) (.long b.toInt64))
    ∧ ∀ op : UnaryOp, Narrows (op.eval? x) (op.eval? (.long a.toInt64))
  := by
  have hlong (v : Int64) : (Constant.long v).number? = some (.long v) := rfl
  constructor
  · intro op hop
    constructor
    · rw [op.eval?_eq_onNumbers hx hy, op.eval?_eq_onNumbers (hlong _) (hlong _)]
      apply op.onNumbers_narrows hop
    · intro v
      constructor
      · rw [op.eval?_eq_onNumbers hx (hlong v), op.eval?_eq_onNumbers (hlong _) (hlong v)]
        apply op.onNumbers_eq_onNumbers_widen hop rfl
      · rw [op.eval?_eq_onNumbers (hlong v) hy, op.eval?_eq_onNumbers (hlong v) (hlong _)]
        apply op.onNumbers_eq_onNumbers_widen hop rfl
  · intro op
    apply op.narrows_eval? hx

/-- The least `int` divided by minus one is the narrowed quotient of the `long`s, the remainder
is zero in both widths, and a quotient by the character of code point zero has no value in
either. -/
theorem eval?_narrows_minimum :
  let div := BinaryOp.arithmetic .div
  let rem := BinaryOp.arithmetic .rem
  let a : Int32 := -2147483648
  let b : Int32 := -1
  let zero : Constant := .char (.ofNat 0)
  (Constant.int a).number? = some (.int a) ∧ (Constant.int b).number? = some (.int b)
    ∧ zero.number? = some (.int 0)
    ∧ div.eval? (.int a) (.int b) = some (.int a)
    ∧ div.eval? (.long a.toInt64) (.long b.toInt64) = some (.long 2147483648)
    ∧ Narrows (some (.int a)) (some (.long 2147483648))
    ∧ rem.eval? (.int a) (.int b) = some (.int 0)
    ∧ Narrows (some (.int 0)) (rem.eval? (.long a.toInt64) (.long b.toInt64))
    ∧ div.eval? (.long 1) zero = none ∧ div.eval? (.long 1) (.long 0) = none
  := by
  intro div rem a b zero
  have hdiv := ((eval?_narrows (x := .int a) (y := .int b) rfl rfl).1 div nofun).1
  have hrem := ((eval?_narrows (x := .int a) (y := .int b) rfl rfl).1 rem nofun).1
  have hzero := (((eval?_narrows (x := .int a) (y := zero) rfl rfl).1 div nofun).2 1).2
  have hint : div.eval? (.int a) (.int b) = some (.int a) := by decide +kernel
  have hlong : div.eval? (.long a.toInt64) (.long b.toInt64) = some (.long 2147483648) := by
    decide +kernel
  have hrest : rem.eval? (.int a) (.int b) = some (.int 0) := by decide +kernel
  have hnone : div.eval? (.long 1) (.long 0) = none := by decide +kernel
  rw [hint, hlong] at hdiv
  rw [hrest] at hrem
  exact ⟨rfl, rfl, rfl, hint, hlong, hdiv, hrest, hrem, hzero.trans hnone, hnone⟩

end VirtualFields
