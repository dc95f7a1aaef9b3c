import VirtualFields.Proofs.Expr.Words

/-!
# Division and remainder

Division truncates toward zero in the width that both operands are widened to, and the
remainder belongs to the truncated quotient: it is smaller than the divisor and has the sign
of the dividend, and the dividend is recovered from both (`Expr.fold_division`).  Only the
least number divided by minus one is out of range; its quotient wraps around to the least
number again, and the dividend is recovered all the same.
-/

namespace VirtualFields

/-- The least integer of a promoted kind. -/
def Kind.minimum (k : Kind) : Int := -2 ^ (k.width - 1)

theorem Kind.join_comm (k l : Kind) :
  k.join l = l.join k
  := by
  cases k with
  | int =>
    cases l with
    | _ => rfl
  | _ =>
    cases l with
    | _ => rfl

theorem Kind.join_join_right (k l : Kind) :
  (k.join l).join l = k.join l
  := by
  cases k with
  | int =>
    cases l with
    | _ => rfl
  | _ => rfl

theorem Kind.join_join_self (k l : Kind) :
  (k.join l).join (k.join l) = k.join l
  := by
  cases k with
  | int =>
    cases l with
    | _ => rfl
  | _ => rfl

/-- The quotient of words is the truncated quotient of the integers they stand for, unless the
least word is divided by minus one. -/
theorem toInt_sdiv_eq_ite {w : Nat} (hw : 0 < w) (a b : BitVec w) :
  (a.sdiv b).toInt
    = if a.toInt = -2 ^ (w - 1) ∧ b.toInt = -1 then -2 ^ (w - 1) else a.toInt.tdiv b.toInt
  := by
  have ha : a.toInt = -2 ^ (w - 1) ↔ a = .intMin w := by
    rw [← BitVec.toInt_inj, BitVec.toInt_intMin_of_pos hw]
  have hb : b.toInt = -1 ↔ b = -1#w := by
    rw [← BitVec.toInt_inj, BitVec.neg_one_eq_allOnes, BitVec.toInt_allOnes, if_pos hw]
  split
  next h =>
    rw [ha.mp h.1, hb.mp h.2, BitVec.intMin_sdiv_neg_one, BitVec.toInt_intMin_of_pos hw]
  next h =>
    apply BitVec.toInt_sdiv_of_ne_or_ne
    rwa [ha, hb, not_and_or] at h

namespace Number

variable (m n : Number)

/-! ### Quotients and remainders of numbers -/

/-- The integer that a number stands for is in range of every kind that the number is widened
to. -/
theorem bmod_toInt (l : Kind) :
  n.toInt.bmod (2 ^ (n.kind.join l).width) = n.toInt
  := by
  cases n with
  | int v =>
    cases l with
    | int => apply Int32.toInt_bmod
    | _ => apply Int32.toInt_bmod_18446744073709551616
  | long v => apply Int64.toInt_bmod

/-- The quotient of two numbers, truncated toward zero and wrapped around. -/
def quotient : Number := wrap (m.kind.join n.kind) (m.toInt.tdiv n.toInt)

/-- The remainder of two numbers that belongs to the truncated quotient. -/
def remainder : Number := wrap (m.kind.join n.kind) (m.toInt.tmod n.toInt)

/-- Two numbers stand for the integers of two words of the width that they are widened to. -/
theorem exists_words :
  ∃ a b : BitVec (m.kind.join n.kind).width, a.toInt = m.toInt ∧ b.toInt = n.toInt
  := by
  use .ofInt _ m.toInt, .ofInt _ n.toInt
  constructor
  · rw [BitVec.toInt_ofInt, bmod_toInt]
  · rw [BitVec.toInt_ofInt, Kind.join_comm, bmod_toInt]

theorem toInt_quotient :
  (m.quotient n).toInt
    = if m.toInt = (m.kind.join n.kind).minimum ∧ n.toInt = -1 then (m.kind.join n.kind).minimum
      else m.toInt.tdiv n.toInt
  := by
  have hwidth : 0 < (m.kind.join n.kind).width := by
    cases m.kind.join n.kind with
    | _ => decide
  obtain ⟨a, b, ha, hb⟩ := m.exists_words n
  rw [quotient, toInt_wrap, ← ha, ← hb, ← BitVec.toInt_sdiv, toInt_sdiv_eq_ite hwidth,
    Kind.minimum]

theorem toInt_remainder :
  (m.remainder n).toInt = m.toInt.tmod n.toInt
  := by
  obtain ⟨a, b, ha, hb⟩ := m.exists_words n
  rw [remainder, toInt_wrap, ← ha, ← hb, ← BitVec.toInt_srem, BitVec.toInt_bmod_cancel]

/-- A remainder is smaller than the divisor. -/
theorem natAbs_remainder_lt (hn : n.toInt ≠ 0) :
  (m.remainder n).toInt.natAbs < n.toInt.natAbs
  := by
  rw [toInt_remainder, Int.natAbs_tmod]
  apply Nat.mod_lt
  apply Int.natAbs_pos.mpr hn

/-- A remainder that is not zero has the sign of the dividend. -/
theorem sign_remainder :
  (m.remainder n).toInt = 0 ∨ (m.remainder n).toInt.sign = m.toInt.sign
  := by
  rw [toInt_remainder]
  have hsign := Int.sign_tmod m.toInt n.toInt
  split at hsign
  next =>
    left
    apply Int.sign_eq_zero_iff_zero.mp hsign
  next =>
    right
    apply hsign

end Number

namespace BinaryOp

variable (m n : Number)

theorem onNumbers_div :
  (arithmetic .div).onNumbers m n
    = if n.toInt = 0 then none else some (m.quotient n).toConstant
  := by
  rw [onNumbers_arithmetic, Arithmetic.onIntegers?]
  split
  · rfl
  · rfl

theorem onNumbers_rem :
  (arithmetic .rem).onNumbers m n
    = if n.toInt = 0 then none else some (m.remainder n).toConstant
  := by
  rw [onNumbers_arithmetic, Arithmetic.onIntegers?]
  split
  · rfl
  · rfl

/-- The quotient times the divisor plus the remainder is the dividend, in the width that both
operands are widened to. -/
theorem onNumbers_quotient_remainder :
  ∃ product, (arithmetic .mul).onNumbers (m.quotient n) n = some (Number.toConstant product)
    ∧ (arithmetic .add).onNumbers product (m.remainder n)
      = some (Number.wrap (m.kind.join n.kind) m.toInt).toConstant
  := by
  have hquotient : (m.quotient n).kind = m.kind.join n.kind := Number.kind_wrap_join m n _
  have hremainder : (m.remainder n).kind = m.kind.join n.kind := Number.kind_wrap_join m n _
  use .wrap (m.kind.join n.kind) ((m.quotient n).toInt * n.toInt)
  constructor
  · rw [onNumbers_arithmetic, hquotient, Kind.join_join_right]
    rfl
  · rw [onNumbers_arithmetic, Number.kind_wrap_join, hremainder, Kind.join_join_self,
      Arithmetic.onIntegers?, Option.map_some, Number.toInt_remainder]
    congr 2
    apply Number.wrap_congr
    -- The quotient that is out of range is congruent to the truncated one all the same, so the
    -- identity of the integers holds up to congruence, with no case split.
    have hproduct := Number.toInt_wrap_modEq (m.kind.join n.kind) ((m.quotient n).toInt * n.toInt)
    have htruncated := Number.toInt_wrap_modEq (m.kind.join n.kind) (m.toInt.tdiv n.toInt)
    have hsum := (hproduct.trans (htruncated.mul_right n.toInt)).add_right (m.toInt.tmod n.toInt)
    rwa [Int.tdiv_mul_add_tmod] at hsum

end BinaryOp

namespace Expr

/-- Division and remainder of numbers are the truncating pair of the width that both operands
are widened to.  They have no value exactly if the divisor is zero.  Otherwise the quotient is
truncated toward zero, except that the least number divided by minus one is the least number;
the remainder is smaller than the divisor and is zero or has the sign of the dividend; and the
quotient times the divisor plus the remainder folds to the dividend. -/
theorem fold_division (depth : Nat) {d e : Expr} {a b : Constant} {m n : Number}
    (hd : d.fold depth = some a) (he : e.fold depth = some b) (hm : a.number? = some m)
    (hn : b.number? = some n) :
  let quotient := binary (.arithmetic .div) d e
  let remainder := binary (.arithmetic .rem) d e
  let sum := binary (.arithmetic .add) (binary (.arithmetic .mul) quotient e) remainder
  let k := m.kind.join n.kind
  (quotient.fold depth = none ↔ n.toInt = 0)
    ∧ (remainder.fold depth = none ↔ n.toInt = 0)
    ∧ (n.toInt ≠ 0 → ∃ q r s : Number, q.kind = k ∧ r.kind = k ∧ s.kind = k
      ∧ quotient.fold depth = some q.toConstant
      ∧ q.toInt = (if m.toInt = k.minimum ∧ n.toInt = -1 then k.minimum
          else m.toInt.tdiv n.toInt)
      ∧ remainder.fold depth = some r.toConstant
      ∧ r.toInt.natAbs < n.toInt.natAbs ∧ (r.toInt = 0 ∨ r.toInt.sign = m.toInt.sign)
      ∧ sum.fold depth = some s.toConstant ∧ s.toInt = m.toInt)
  := by
  intro quotient remainder sum k
  have hfold (op : BinaryOp) : (binary op d e).fold depth = op.onNumbers m n := by
    rw [fold, hd, Option.bind_some, he, Option.bind_some, op.eval?_eq_onNumbers hm hn]
  have hquotient := (hfold (.arithmetic .div)).trans (BinaryOp.onNumbers_div m n)
  have hremainder := (hfold (.arithmetic .rem)).trans (BinaryOp.onNumbers_rem m n)
  and_intros
  · rw [hquotient]
    simp
  · rw [hremainder]
    simp
  · intro hzero
    rw [if_neg hzero] at hquotient hremainder
    obtain ⟨product, hproduct, hsum⟩ := BinaryOp.onNumbers_quotient_remainder m n
    use m.quotient n, m.remainder n, .wrap k m.toInt
    and_intros
    · apply Number.kind_wrap_join
    · apply Number.kind_wrap_join
    · apply Number.kind_wrap_join
    · apply hquotient
    · apply Number.toInt_quotient
    · apply hremainder
    · apply Number.natAbs_remainder_lt m n hzero
    · apply Number.sign_remainder
    · have hnumber := Number.number?_toConstant
      rw [fold, fold, hquotient, he, hremainder, Option.bind_some, Option.bind_some,
        BinaryOp.eval?_eq_onNumbers _ (hnumber _) hn, hproduct, Option.bind_some,
        Option.bind_some, BinaryOp.eval?_eq_onNumbers _ (hnumber _) (hnumber _), hsum]
    · rw [Number.toInt_wrap, Number.bmod_toInt]

/-- The least `int` divided by minus one is itself, with the remainder zero, and a `long` divided
by a character has a `long` quotient and a `long` remainder of its own sign. -/
theorem fold_division_minimum :
  let minimum : Constant := .int (-2147483648)
  let one : Constant := .int (-1)
  let seven : Constant := .long (-7)
  let two : Constant := .char (.ofNat 2)
  let operator (op : Arithmetic) (a b : Constant) :=
    binary (.arithmetic op) (.literal a) (.literal b)
  (minimum.number? = some (.int (-2147483648)) ∧ one.number? = some (.int (-1))
      ∧ (operator .div minimum one).fold 16 = some minimum
      ∧ (operator .rem minimum one).fold 16 = some (.int 0)
      ∧ ∃ s : Number, s.kind = .int ∧ s.toInt = -2147483648
        ∧ (binary (.arithmetic .add)
            (binary (.arithmetic .mul) (operator .div minimum one) (.literal one))
            (operator .rem minimum one)).fold 16 = some s.toConstant)
    ∧ (seven.number? = some (.long (-7)) ∧ two.number? = some (.int 2)
      ∧ (operator .div seven two).fold 16 = some (.long (-3))
      ∧ (operator .rem seven two).fold 16 = some (.long (-1))
      ∧ ∃ s : Number, s.kind = .long ∧ s.toInt = -7
        ∧ (binary (.arithmetic .add)
            (binary (.arithmetic .mul) (operator .div seven two) (.literal two))
            (operator .rem seven two)).fold 16 = some s.toConstant)
  := by
  intro minimum one seven two operator
  have hminimum := fold_division 16 (d := .literal minimum) (e := .literal one)
    (m := .int (-2147483648)) (n := .int (-1)) rfl rfl rfl rfl
  have hseven := fold_division 16 (d := .literal seven) (e := .literal two)
    (m := .long (-7)) (n := .int 2) rfl rfl rfl rfl
  obtain ⟨-, -, s, -, -, hs, -, -, -, -, -, hsum, hvalue⟩ := hminimum.2.2 (by decide)
  obtain ⟨-, -, t, -, -, ht, -, -, -, -, -, hsum', hvalue'⟩ := hseven.2.2 (by decide)
  constructor
  · exact ⟨rfl, rfl, by decide +kernel, by decide +kernel, s, hs, hvalue, hsum⟩
  · exact ⟨rfl, rfl, by decide +kernel, by decide +kernel, t, ht, hvalue', hsum'⟩

end Expr

end VirtualFields
