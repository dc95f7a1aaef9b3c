import VirtualFields.Proofs.Expr.Polynomials

/-!
# Shifts

A shift of a promoted number has the kind of the number, and the amount counts modulo the
number of bits of that kind, whatever the kind and the sign of the amount are.  To the left a
shift multiplies by a power of two and wraps around; to the right it divides by a power of two,
and rounds down, the integer that the word stands for or, without the sign, the one that its
bits are (`Expr.fold_shift`).  The shift is that of a machine that shifts by less than the
number of bits only.
-/

namespace VirtualFields

namespace Shift

/-- The value of a shift of an integer of `w` bits by `k` bits.  Results that do not fit into the
bits are read as signed. -/
def onIntegers (op : Shift) (w : Nat) (v : Int) (k : Nat) : Int :=
  match op with
  | left => (v * 2 ^ k).bmod (2 ^ w)
  | right => v.fdiv (2 ^ k)
  | rightUnsigned => ((v % 2 ^ w).fdiv (2 ^ k)).bmod (2 ^ w)

/-- The value of a shift on a machine, which is undefined unless the amount is less than the
width of the word. -/
def machine? {w : Nat} (op : Shift) (a : BitVec w) (k : Nat) : Option (BitVec w) :=
  if k < w then
    match op with
    | left => some (a <<< k)
    | right => some (a.sshiftRight k)
    | rightUnsigned => some (a >>> k)
  else none

/-- The low bits of an amount, as many as it takes to count the bits of a word. -/
def mask (w : Nat) (amount : Int64) : Nat :=
  (amount.toBitVec &&& BitVec.ofNat 64 (w - 1)).toNat

variable {w : Nat} (op : Shift) (a : BitVec w)

/-! ### Shifts of words -/

theorem toNat_eq_toInt_emod :
  (a.toNat : Int) = a.toInt % 2 ^ w
  := by
  have hlt : (a.toNat : Int) < 2 ^ w := by
    exact_mod_cast a.isLt
  have hmod := Int.bmod_emod (x := a.toNat) (m := 2 ^ w)
  rw [← BitVec.toInt_eq_toNat_bmod] at hmod
  push_cast at hmod
  rw [hmod, Int.emod_eq_of_lt (Int.natCast_nonneg _) hlt]

/-- A shift of a word stands for the shift of the integer that the word stands for. -/
theorem toInt_eval (n : Int) :
  (op.eval a n).toInt = op.onIntegers w a.toInt (n % w).toNat
  := by
  have hpow (k : Nat) : (0 : Int) ≤ 2 ^ k := Int.pow_nonneg (by decide)
  cases op with
  | left =>
    rw [eval, onIntegers, BitVec.toInt_shiftLeft, a.toInt_eq_toNat_bmod, Int.bmod_mul_bmod,
      Nat.shiftLeft_eq]
    push_cast
    rfl
  | right =>
    rw [eval, onIntegers, BitVec.toInt_sshiftRight, Int.shiftRight_eq_div_pow,
      Int.fdiv_eq_ediv_of_nonneg _ (hpow _)]
    push_cast
    rfl
  | rightUnsigned =>
    rw [eval, onIntegers, BitVec.toInt_eq_toNat_bmod, BitVec.toNat_ushiftRight,
      Nat.shiftRight_eq_div_pow, Int.fdiv_eq_ediv_of_nonneg _ (hpow _), ← toNat_eq_toInt_emod]
    push_cast
    rfl

/-- A shift reads the amount modulo the width of the word. -/
theorem eval_congr {n u : Int} (h : n ≡ u [ZMOD w]) :
  op.eval a n = op.eval a u
  := by
  have hmod : n % w = u % w := h
  simp only [eval, hmod]

/-- The low bits of an amount are the amount modulo the width, if that is a power of two. -/
theorem mask_eq_emod {i : Nat} (hi : i < 64) (hw : w = 2 ^ i) (amount : Int64) :
  (mask w amount : Int) = amount.toInt % w
  := by
  subst hw
  have hmask : 2 ^ i - 1 < 2 ^ 64 := by
    have hpow : 2 ^ i < 2 ^ 64 := Nat.pow_lt_pow_right (by decide) hi
    omega
  have hdvd : ((2 ^ i : Nat) : Int) ∣ 2 ^ 64 := by
    exact_mod_cast Nat.pow_dvd_pow 2 hi.le
  rw [mask, BitVec.toNat_and, BitVec.toNat_ofNat, Nat.mod_eq_of_lt hmask,
    Nat.and_two_pow_sub_one_eq_mod, Int.natCast_emod, toNat_eq_toInt_emod,
    Int.emod_emod_of_dvd _ hdvd, Int64.toInt_toBitVec]

/-- A machine that shifts by the low bits of the amount has a value, which is the one of the
shift. -/
theorem machine?_mask {i : Nat} (hi : i < 64) (hw : w = 2 ^ i) (amount : Int64) :
  op.machine? a (mask w amount) = some (op.eval a amount.toInt)
  := by
  have hmask := mask_eq_emod hi hw amount
  have hlt : mask w amount < w := by
    have hpos : (0 : Int) < w := by
      rw [hw]
      exact_mod_cast Nat.two_pow_pos i
    have hbound := Int.emod_lt_of_pos amount.toInt hpos
    rw [← hmask] at hbound
    exact_mod_cast hbound
  cases op with
  | _ => rw [machine?, if_pos hlt, eval, ← hmask, Int.toNat_natCast]

end Shift

namespace Number

variable (op : Shift) (n : Number)

/-! ### Shifts of numbers -/

/-- A number shifted by an amount, in its own width. -/
def shift (amount : Int) : Number :=
  match n with
  | int a => .int (.ofBitVec (op.eval a.toBitVec amount))
  | long a => .long (.ofBitVec (op.eval a.toBitVec amount))

/-- A number whose word is shifted on a machine by the low bits of a `long`. -/
def machineShift? (amount : Int64) : Option Number :=
  match n with
  | int a => (op.machine? a.toBitVec (Shift.mask 32 amount)).map fun b => .int (.ofBitVec b)
  | long a => (op.machine? a.toBitVec (Shift.mask 64 amount)).map fun b => .long (.ofBitVec b)

theorem kind_shift (amount : Int) :
  (n.shift op amount).kind = n.kind
  := by
  cases n with
  | _ => rfl

theorem toInt_shift (amount : Int) :
  (n.shift op amount).toInt
    = op.onIntegers n.kind.width n.toInt (amount % n.kind.width).toNat
  := by
  cases n with
  | int a => apply op.toInt_eval a.toBitVec
  | long a => apply op.toInt_eval a.toBitVec

theorem shift_congr {amount amount' : Int} (h : amount ≡ amount' [ZMOD n.kind.width]) :
  n.shift op amount = n.shift op amount'
  := by
  cases n with
  | int a => rw [shift, shift, op.eval_congr a.toBitVec h]
  | long a => rw [shift, shift, op.eval_congr a.toBitVec h]

theorem machineShift?_eq_shift (amount : Int64) :
  n.machineShift? op amount = some (n.shift op amount.toInt)
  := by
  cases n with
  | int a =>
    rw [machineShift?, op.machine?_mask a.toBitVec (i := 5) (by decide) rfl, Option.map_some,
      shift]
  | long a =>
    rw [machineShift?, op.machine?_mask a.toBitVec (i := 6) (by decide) rfl, Option.map_some,
      shift]

end Number

namespace BinaryOp

theorem onNumbers_shift (op : Shift) (m n : Number) :
  (shift op).onNumbers m n = some (m.shift op n.toInt).toConstant
  := by
  cases m with
  | int a => rfl
  | long a => rfl

theorem kind?_shift_of_not_promoted (op : Shift) {a b : Kind}
    (h : a.promoted? = none ∨ b.promoted? = none) :
  (shift op).kind? a b = none
  := by
  by_cases hbool : a = .bool ∧ b = .bool
  · rw [hbool.1, hbool.2]
    rfl
  · rw [kind?_of_numbers (shift op) (by simp) (not_and.mp hbool)]
    rcases h with ha | hb
    · rw [ha, Option.bind_none]
    · simp [hb]

/-- A shift with an operand that is no number has no value. -/
theorem eval?_shift_of_not_promoted (op : Shift) {a b : Constant}
    (h : a.kind.promoted? = none ∨ b.kind.promoted? = none) :
  (shift op).eval? a b = none
  := by
  have hkind := (shift op).map_kind_eval? a b
  rw [if_neg (by simp [divides]), kind?_shift_of_not_promoted op h] at hkind
  apply Option.map_eq_none_iff.mp hkind

end BinaryOp

namespace Expr

variable {depth : Nat} {d e : Expr} {a b : Constant}

theorem fold_shift_of_numbers (op : Shift) {m n : Number} (hd : d.fold depth = some a)
    (he : e.fold depth = some b) (hm : a.number? = some m) (hn : b.number? = some n) :
  (binary (.shift op) d e).fold depth = some (m.shift op n.toInt).toConstant
  := by
  rw [fold_binary _ hd he, BinaryOp.eval?_eq_onNumbers _ hm hn, BinaryOp.onNumbers_shift]

/-- A shift of a number by a number folds to the exact shift in the width of the left operand,
which also a machine gives that shifts by the low bits of the amount, as many as that width
allows.  The right operand counts modulo the width of the left one alone.  A shift has no value
if one of its operands is no number. -/
theorem fold_shift (depth : Nat) (op : Shift) {d e : Expr} {a b : Constant}
    (hd : d.fold depth = some a) (he : e.fold depth = some b) :
  (∀ k l, a.kind.promoted? = some k → b.kind.promoted? = some l →
      (∃ m n r : Number, a.number? = some m ∧ b.number? = some n
        ∧ m.machineShift? op n.widen = some r
        ∧ (binary (.shift op) d e).fold depth = some r.toConstant ∧ r.kind = k
        ∧ r.toInt = op.onIntegers k.width a.integer (b.integer % k.width).toNat)
      ∧ ∀ e' b' l', e'.fold depth = some b' → b'.kind.promoted? = some l' →
        b'.integer ≡ b.integer [ZMOD k.width] →
          (binary (.shift op) d e').fold depth = (binary (.shift op) d e).fold depth)
    ∧ (a.kind.promoted? = none ∨ b.kind.promoted? = none →
      (binary (.shift op) d e).fold depth = none)
  := by
  constructor
  · intro k l hk hl
    have hm := Constant.number?_eq_wrap hk
    have hn := Constant.number?_eq_wrap hl
    generalize Number.wrap k a.integer = m at hm
    generalize Number.wrap l b.integer = n at hn
    obtain rfl : m.kind = k := Option.some.inj ((Constant.promoted?_kind hm).symm.trans hk)
    have hinteger := Constant.toInt_of_number? hn
    have hfold := fold_shift_of_numbers op hd he hm hn
    constructor
    · use m, n, m.shift op n.toInt, hm, hn
      and_intros
      · rw [Number.machineShift?_eq_shift, n.toInt_widen]
      · apply hfold
      · apply Number.kind_shift
      · rw [Number.toInt_shift, Constant.toInt_of_number? hm, hinteger]
    · intro e' b' l' he' hl' hmod
      have hn' := Constant.number?_eq_wrap hl'
      generalize Number.wrap l' b'.integer = n' at hn'
      rw [← hinteger, ← Constant.toInt_of_number? hn'] at hmod
      rw [fold_shift_of_numbers op hd he' hm hn', hfold, Number.shift_congr op m hmod]
  · intro h
    rw [fold_binary _ hd he, BinaryOp.eval?_shift_of_not_promoted op h]

/-- An `int` shifted to the left by a negative `long` wraps around, a `long` shifted to the right
by a character keeps its sign, an `int` shifted without its sign by its own width is left as it
is, and a string is not shifted. -/
theorem fold_shift_amounts :
  let shift (op : Shift) (a b : Constant) := binary (.shift op) (.literal a) (.literal b)
  let left := shift .left (.int 3) (.long (-1))
  let right := shift .right (.long (-8)) (.char 'a')
  let unsigned := shift .rightUnsigned (.int (-1)) (.int 32)
  (left.fold 16 = some (.int (-2147483648))
      ∧ ∃ r : Number, left.fold 16 = some r.toConstant ∧ r.kind = .int ∧ r.toInt = -2147483648)
    ∧ (right.fold 16 = some (.long (-1))
      ∧ ∃ r : Number, right.fold 16 = some r.toConstant ∧ r.kind = .long ∧ r.toInt = -1)
    ∧ (unsigned.fold 16 = some (.int (-1))
      ∧ ∃ r : Number, unsigned.fold 16 = some r.toConstant ∧ r.kind = .int ∧ r.toInt = -1)
    ∧ (shift .left (.str "3") (.int 1)).fold 16 = none
  := by
  intro shift left right unsigned
  have hfold (op : Shift) (a b : Constant) :=
    fold_shift 16 op (d := .literal a) (e := .literal b) rfl rfl
  obtain ⟨⟨-, -, l, -, -, -, hleft, hlkind, hl⟩, -⟩ :=
    (hfold .left (.int 3) (.long (-1))).1 .int .long rfl rfl
  obtain ⟨⟨-, -, r, -, -, -, hright, hrkind, hr⟩, -⟩ :=
    (hfold .right (.long (-8)) (.char 'a')).1 .long .int rfl rfl
  obtain ⟨⟨-, -, u, -, -, -, hunsigned, hukind, hu⟩, -⟩ :=
    (hfold .rightUnsigned (.int (-1)) (.int 32)).1 .int .int rfl rfl
  and_intros
  · decide +kernel
  · use l, hleft, hlkind
    rw [hl]
    decide +kernel
  · decide +kernel
  · use r, hright, hrkind
    rw [hr]
    decide +kernel
  · decide +kernel
  · use u, hunsigned, hukind
    rw [hu]
    decide +kernel
  · apply (hfold .left (.str "3") (.int 1)).2
    left
    rfl

end Expr

end VirtualFields
