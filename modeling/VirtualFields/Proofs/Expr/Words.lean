import Mathlib.Data.Int.ModEq
import VirtualFields.Proofs.Expr.Kind

/-!
# Words and integers

A promoted number stands for an integer in the range of its kind.  Arithmetic on numbers is
arithmetic on the integers they stand for, wrapped around once into the range of the kind
that both operands are widened to (`BinaryOp.onNumbers_arithmetic`).
-/

namespace VirtualFields

/-! ### Operators on words -/

/-- The value of an arithmetic operator over the unbounded integers.  Quotients are truncated
toward zero. -/
def Arithmetic.onIntegers? (op : Arithmetic) (a b : Int) : Option Int :=
  match op with
  | add => some (a + b)
  | sub => some (a - b)
  | mul => some (a * b)
  | div => if b = 0 then none else some (a.tdiv b)
  | rem => if b = 0 then none else some (a.tmod b)

/-- An arithmetic operator on words wraps around its value on the integers that the words
stand for. -/
theorem Arithmetic.eval?_eq_onIntegers? {w : Nat} (op : Arithmetic) (a b : BitVec w) :
  op.eval? a b = (op.onIntegers? a.toInt b.toInt).map (BitVec.ofInt w)
  := by
  have hzero := toInt_eq_zero_iff b
  cases op with
  | add => simp [eval?, onIntegers?, BitVec.ofInt_add]
  | sub => simp [eval?, onIntegers?, ← BitVec.toInt_inj]
  | mul => simp [eval?, onIntegers?, BitVec.ofInt_mul]
  | div =>
    by_cases h : b = 0
    · simp [eval?, onIntegers?, h]
    · have hquotient : BitVec.ofInt w (a.toInt.tdiv b.toInt) = a.sdiv b := by
        rw [← BitVec.toInt_inj, BitVec.toInt_ofInt, BitVec.toInt_sdiv]
      rw [eval?, onIntegers?, if_neg h, if_neg (mt hzero.mp h), Option.map_some, hquotient]
  | rem =>
    by_cases h : b = 0
    · simp [eval?, onIntegers?, h]
    · have hremainder : BitVec.ofInt w (a.toInt.tmod b.toInt) = a.srem b := by
        rw [← BitVec.toInt_srem, BitVec.ofInt_toInt]
      rw [eval?, onIntegers?, if_neg h, if_neg (mt hzero.mp h), Option.map_some, hremainder]

/-! ### Numbers as wrapped integers -/

/-- The number of bits of the words of a promoted kind. -/
def Kind.width : Kind → Nat
  | long => 64
  | _ => 32

theorem Constant.promoted?_kind {c : Constant} {n : Number} (h : c.number? = some n) :
  c.kind.promoted? = some n.kind
  := by
  rw [← c.map_kind_number?, h, Option.map_some]

namespace Number

/-- The number of a promoted kind that an integer wraps around to. -/
def wrap : Kind → Int → Number
  | .long, v => .long (.ofInt v)
  | _, v => .int (.ofInt v)

@[simp]
theorem number?_toConstant (n : Number) :
  n.toConstant.number? = some n
  := by
  cases n with
  | _ => rfl

@[simp]
theorem toInt_wrap (k : Kind) (v : Int) :
  (wrap k v).toInt = v.bmod (2 ^ k.width)
  := by
  cases k with
  | long => apply Int64.toInt_ofInt
  | _ => apply Int32.toInt_ofInt

/-- A number stands for an integer that is congruent, modulo the number of words, to the one
it was wrapped from. -/
theorem toInt_wrap_modEq (k : Kind) (v : Int) :
  (wrap k v).toInt ≡ v [ZMOD 2 ^ k.width]
  := by
  rw [toInt_wrap]
  exact_mod_cast Int.bmod_emod

theorem wrap_toInt_wrap (k : Kind) (v : Int) :
  wrap k (wrap k v).toInt = wrap k v
  := by
  cases k with
  | long => simp [wrap, toInt, -Int64.toInt_ofInt]
  | _ => simp [wrap, toInt, -Int32.toInt_ofInt]

/-- Integers that are congruent modulo the number of words wrap around to one number. -/
theorem wrap_congr {k : Kind} {v u : Int} (h : v ≡ u [ZMOD 2 ^ k.width]) :
  wrap k v = wrap k u
  := by
  have hbmod : v.bmod (2 ^ k.width) = u.bmod (2 ^ k.width) := by
    rw [← Int.emod_bmod v, ← Int.emod_bmod u]
    push_cast
    rw [h]
  rw [← wrap_toInt_wrap k v, toInt_wrap, hbmod, ← toInt_wrap, wrap_toInt_wrap]

/-- The only number of a kind that stands for an integer congruent to a given one is the number
that the given one wraps around to. -/
theorem modEq_iff_eq_wrap (n : Number) (v : Int) :
  n.toInt ≡ v [ZMOD 2 ^ n.kind.width] ↔ n = wrap n.kind v
  := by
  have hwrap : wrap n.kind n.toInt = n := by
    cases n with
    | int => simp [wrap, kind, toInt]
    | long => simp [wrap, kind, toInt]
  constructor
  · intro h
    rw [← wrap_congr h, hwrap]
  · intro h
    have hmodEq := toInt_wrap_modEq n.kind v
    rwa [← h] at hmodEq

/-- The kind that two numbers are widened to is the kind of a number. -/
@[simp]
theorem kind_wrap_join (m n : Number) (v : Int) :
  (wrap (m.kind.join n.kind) v).kind = m.kind.join n.kind
  := by
  cases m with
  | int =>
    cases n with
    | _ => rfl
  | long => rfl

end Number

/-! ### Operators on numbers -/

namespace BinaryOp

/-- An operator other than a shift is one on words that stand for the integers of the numbers,
and these words are constants of the kind that both numbers are widened to. -/
theorem exists_onWords (op : BinaryOp) (hop : ∀ s, op ≠ shift s) (m n : Number) :
  ∃ (w : Nat) (a b : BitVec w) (wrap : BitVec w → Constant),
    op.onNumbers m n = op.onWords wrap a b ∧ a.toInt = m.toInt ∧ b.toInt = n.toInt
      ∧ ∀ v, wrap (.ofInt w v) = (Number.wrap (m.kind.join n.kind) v).toConstant
  := by
  by_cases h : m.kind.join n.kind = .long
  · use 64, m.widen.toBitVec, n.widen.toBitVec, wrapLong
    rw [h]
    exact ⟨onNumbers_widen op hop h, m.toInt_widen, n.toInt_widen, fun _ => rfl⟩
  · cases m with
    | long => exact absurd rfl h
    | int a =>
      cases n with
      | long => exact absurd rfl h
      | int b =>
        use 32, a.toBitVec, b.toBitVec, wrapInt
        exact ⟨onNumbers.eq_3 op a b hop, rfl, rfl, fun _ => rfl⟩

/-- Arithmetic on numbers wraps around its value on the integers that the numbers stand for,
into the range of the kind that both are widened to. -/
theorem onNumbers_arithmetic (op : Arithmetic) (m n : Number) :
  (arithmetic op).onNumbers m n
    = (op.onIntegers? m.toInt n.toInt).map fun v =>
        (Number.wrap (m.kind.join n.kind) v).toConstant
  := by
  obtain ⟨w, a, b, wrap, hwords, ha, hb, hwrap⟩ := exists_onWords (arithmetic op) nofun m n
  rw [hwords, onWords, op.eval?_eq_onIntegers?, ha, hb, Option.map_map]
  congr 1
  funext v
  apply hwrap

/-- An operator on constants that are promoted to numbers is the operator on the numbers. -/
theorem eval?_eq_onNumbers (op : BinaryOp) {a b : Constant} {m n : Number}
    (ha : a.number? = some m) (hb : b.number? = some n) :
  op.eval? a b = op.onNumbers m n
  := by
  have hakind := Constant.promoted?_kind ha
  have hbkind := Constant.promoted?_kind hb
  have hstr : ¬ op.concatenates a b := by
    rw [concatenates_iff]
    rintro ⟨-, h | h⟩
    · rw [h] at hakind
      contradiction
    · rw [h] at hbkind
      contradiction
  have hbool : a.kind ≠ .bool := by
    intro h
    rw [h] at hakind
    contradiction
  rw [op.eval?_of_numbers hstr (fun h => absurd h hbool), ha, hb]
  rfl

end BinaryOp

end VirtualFields
