import VirtualFields.Proofs.Expr.Words

/-!
# Polynomials

A polynomial is an expression made by addition, subtraction, multiplication, negation and
bitwise complement from literals that are promoted to one kind.  Folding wraps around after
each operator.  The constant is the one that the value over the unbounded integers, wrapped
around once at the end, gives (`Expr.fold_polynomial`).
-/

namespace VirtualFields

/-- The integer that a literal stands for.  A character stands for its code point. -/
def Constant.integer : Constant → Int
  | int v => v.toInt
  | long v => v.toInt
  | char c => c.toNat
  | bool _ | str _ | null => 0

namespace Expr

/-- An expression made from literals that are promoted to one kind, by operators that are
polynomials over the integers. -/
inductive Polynomial (k : Kind) : Expr → Prop where
  | literal {c} (hc : c.kind.promoted? = some k) : Polynomial k (.literal c)
  | neg {e} (he : Polynomial k e) : Polynomial k (.unary .neg e)
  | bitNot {e} (he : Polynomial k e) : Polynomial k (.unary .bitNot e)
  | add {d e} (hd : Polynomial k d) (he : Polynomial k e) :
      Polynomial k (.binary (.arithmetic .add) d e)
  | sub {d e} (hd : Polynomial k d) (he : Polynomial k e) :
      Polynomial k (.binary (.arithmetic .sub) d e)
  | mul {d e} (hd : Polynomial k d) (he : Polynomial k e) :
      Polynomial k (.binary (.arithmetic .mul) d e)

/-- The value of a polynomial over the unbounded integers. -/
def integer : Expr → Int
  | .literal c => c.integer
  | .unary .neg e => -e.integer
  | .unary .bitNot e => -e.integer - 1
  | .binary (.arithmetic .add) d e => d.integer + e.integer
  | .binary (.arithmetic .sub) d e => d.integer - e.integer
  | .binary (.arithmetic .mul) d e => d.integer * e.integer
  | _ => 0

end Expr

/-! ### Operators on wrapped integers -/

theorem Constant.number?_eq_wrap {c : Constant} {k : Kind} (hc : c.kind.promoted? = some k) :
  c.number? = some (Number.wrap k c.integer)
  := by
  cases c with
  | int v =>
    cases hc
    simp [number?, Number.wrap, integer]
  | long v =>
    cases hc
    simp [number?, Number.wrap, integer]
  | char c =>
    cases hc
    simp [number?, Number.wrap, integer, Int32.ofInt_eq_ofNat]
  | bool => contradiction
  | str => contradiction
  | null => contradiction

/-- The number that a constant is promoted to stands for the integer of the constant. -/
theorem Constant.toInt_of_number? {c : Constant} {n : Number} (h : c.number? = some n) :
  n.toInt = c.integer
  := by
  cases c with
  | int v => cases h; rfl
  | long v => cases h; rfl
  | char c =>
    cases h
    apply Int32.toInt_ofNat_of_lt
    -- Code points stay far below the largest `int`.
    have hvalid := c.valid
    simp only [UInt32.isValidChar, Nat.isValidChar] at hvalid
    rw [Char.toNat]
    omega
  | bool => contradiction
  | str => contradiction
  | null => contradiction

namespace Number

@[simp]
theorem neg_wrap (k : Kind) (v : Int) :
  (wrap k v).neg = wrap k (-v)
  := by
  cases k with
  | long => simp [wrap, neg]
  | _ => simp [wrap, neg]

@[simp]
theorem complement_wrap (k : Kind) (v : Int) :
  (wrap k v).complement = wrap k (-v - 1)
  := by
  cases k with
  | long => simp [wrap, complement, Int64.not_eq_neg_sub]
  | _ => simp [wrap, complement, Int32.not_eq_neg_sub]

end Number

/-- The kind that a kind is promoted to is promoted to itself. -/
theorem Kind.promoted?_promoted {k l : Kind} (h : l.promoted? = some k) :
  k.promoted? = some k
  := by
  cases l with
  | int => cases h; rfl
  | char => cases h; rfl
  | long => cases h; rfl
  | _ => contradiction

namespace Expr

variable {depth : Nat} {k : Kind} {d e : Expr} {v u : Int}

/-! ### Folding and wrapping around -/

/-- An expression folds to a constant that is promoted to the number of a kind that an
integer wraps around to. -/
def WrapsTo (depth : Nat) (k : Kind) (e : Expr) (v : Int) : Prop :=
  ∃ c, e.fold depth = some c ∧ c.number? = some (.wrap k v)

namespace WrapsTo

theorem of_fold (h : e.fold depth = some (Number.wrap k v).toConstant) :
  e.WrapsTo depth k v
  := by
  use (Number.wrap k v).toConstant, h
  apply Number.number?_toConstant

theorem neg (h : e.WrapsTo depth k v) :
  (unary .neg e).fold depth = some (Number.wrap k (-v)).toConstant
  := by
  obtain ⟨c, hfold, hc⟩ := h
  rw [fold, hfold, Option.bind_some, UnaryOp.eval?, hc, Option.map_some, Number.neg_wrap]

theorem bitNot (h : e.WrapsTo depth k v) :
  (unary .bitNot e).fold depth = some (Number.wrap k (-v - 1)).toConstant
  := by
  obtain ⟨c, hfold, hc⟩ := h
  rw [fold, hfold, Option.bind_some, UnaryOp.eval?, hc, Option.map_some,
    Number.complement_wrap]

/-- An arithmetic operator that respects congruence of integers may be applied to its
operands before they are wrapped around. -/
theorem arithmetic {op : Arithmetic} {f : Int → Int → Int}
    (hop : ∀ v u, op.onIntegers? v u = some (f v u))
    (hf : ∀ {n v v' u u' : Int}, v ≡ v' [ZMOD n] → u ≡ u' [ZMOD n] → f v u ≡ f v' u' [ZMOD n])
    (hk : k.promoted? = some k) (hd : d.WrapsTo depth k v) (he : e.WrapsTo depth k u) :
  (binary (.arithmetic op) d e).fold depth = some (Number.wrap k (f v u)).toConstant
  := by
  obtain ⟨a, hfolda, ha⟩ := hd
  obtain ⟨b, hfoldb, hb⟩ := he
  have hkind : (Number.wrap k v).kind.join (Number.wrap k u).kind = k := by
    cases k with
    | int => rfl
    | long => rfl
    | _ => contradiction
  rw [fold, hfolda, hfoldb, Option.bind_some, Option.bind_some,
    BinaryOp.eval?_eq_onNumbers _ ha hb, BinaryOp.onNumbers_arithmetic, hop, hkind,
    Option.map_some, Number.wrap_congr]
  apply hf
  · apply Number.toInt_wrap_modEq
  · apply Number.toInt_wrap_modEq

end WrapsTo

namespace Polynomial

theorem promoted?_eq (h : Polynomial k e) :
  k.promoted? = some k
  := by
  induction h with
  | literal hc => apply Kind.promoted?_promoted hc
  | neg _ ih => apply ih
  | bitNot _ ih => apply ih
  | add _ _ ih => apply ih
  | sub _ _ ih => apply ih
  | mul _ _ ih => apply ih

/-- A polynomial folds to a constant that is promoted to its value, wrapped around once.  A
polynomial with an operator folds to the promoted constant itself. -/
theorem wrapsTo (h : Polynomial k e) (depth : Nat) :
  e.WrapsTo depth k e.integer
    ∧ ((∀ c, e ≠ .literal c) → e.fold depth = some (Number.wrap k e.integer).toConstant)
  := by
  -- A literal is promoted by the operator above it only, so the second part fails at the leaves
  -- and the induction is carried by the first.
  have of_fold {e : Expr} (he : e.fold depth = some (Number.wrap k e.integer).toConstant) :
      e.WrapsTo depth k e.integer
        ∧ ((∀ c, e ≠ .literal c) → e.fold depth = some (Number.wrap k e.integer).toConstant) :=
    ⟨.of_fold he, fun _ => he⟩
  induction h with
  | @literal c hc =>
    constructor
    · use c, rfl
      apply Constant.number?_eq_wrap hc
    · intro hop
      exact absurd rfl (hop c)
  | neg _ ih => apply of_fold ih.1.neg
  | bitNot _ ih => apply of_fold ih.1.bitNot
  | add hd _ ihd ihe =>
    apply of_fold
    apply ihd.1.arithmetic (fun _ _ => rfl) Int.ModEq.add hd.promoted?_eq ihe.1
  | sub hd _ ihd ihe =>
    apply of_fold
    apply ihd.1.arithmetic (fun _ _ => rfl) Int.ModEq.sub hd.promoted?_eq ihe.1
  | mul hd _ ihd ihe =>
    apply of_fold
    apply ihd.1.arithmetic (fun _ _ => rfl) Int.ModEq.mul hd.promoted?_eq ihe.1

end Polynomial

/-- Wrapping around after each operator of a polynomial is wrapping around once at the end.  A
polynomial of `int`s and characters with at least one operator folds to the only `int`, and
one of `long`s to the only `long`, that is congruent to its value over the unbounded integers
modulo the number of words. -/
theorem fold_polynomial (depth : Nat) (e : Expr) (hop : ∀ c, e ≠ .literal c) :
  (Polynomial .int e → ∃ r : Int32, e.fold depth = some (.int r)
      ∧ ∀ s : Int32, s.toInt ≡ e.integer [ZMOD 2 ^ 32] ↔ s = r)
    ∧ (Polynomial .long e → ∃ r : Int64, e.fold depth = some (.long r)
      ∧ ∀ s : Int64, s.toInt ≡ e.integer [ZMOD 2 ^ 64] ↔ s = r)
  := by
  constructor
  · intro h
    use .ofInt e.integer, (h.wrapsTo depth).2 hop
    intro s
    apply (Number.modEq_iff_eq_wrap (.int s) e.integer).trans
    simp [Number.wrap, Number.kind]
  · intro h
    use .ofInt e.integer, (h.wrapsTo depth).2 hop
    intro s
    apply (Number.modEq_iff_eq_wrap (.long s) e.integer).trans
    simp [Number.wrap, Number.kind]

/-- A sum, a product and a negative of `int`s that are all out of range, and a product of
`long`s that is. -/
theorem fold_polynomial_overflow :
  let sum := Expr.binary (.arithmetic .add) (.literal (.int 2147483647)) (.literal (.char 'a'))
  let product := Expr.binary (.arithmetic .mul) sum (.unary .bitNot (.literal (.int (-2147483648))))
  let e := Expr.binary (.arithmetic .sub) product (.unary .neg (.literal (.int (-2147483648))))
  let f := Expr.binary (.arithmetic .mul) (.unary .neg (.literal (.long (-9223372036854775808))))
    (.literal (.long 3))
  ((∀ c, e ≠ .literal c) ∧ Polynomial .int e ∧ e.integer = 4611686220290850720
      ∧ e.fold 16 = some (.int (-96))
      ∧ ∀ s : Int32, s.toInt ≡ e.integer [ZMOD 2 ^ 32] ↔ s = -96)
    ∧ ((∀ c, f ≠ .literal c) ∧ Polynomial .long f ∧ f.integer = 27670116110564327424
      ∧ f.fold 16 = some (.long (-9223372036854775808))
      ∧ ∀ s : Int64, s.toInt ≡ f.integer [ZMOD 2 ^ 64] ↔ s = -9223372036854775808)
  := by
  intro sum product e f
  have he : Polynomial .int e :=
    .sub (.mul (.add (.literal rfl) (.literal rfl)) (.bitNot (.literal rfl))) (.neg (.literal rfl))
  have hf : Polynomial .long f := .mul (.neg (.literal rfl)) (.literal rfl)
  obtain ⟨r, hr, huniquer⟩ := (fold_polynomial 16 e nofun).1 he
  obtain ⟨t, ht, huniquet⟩ := (fold_polynomial 16 f nofun).2 hf
  have hfolde : e.fold 16 = some (.int (-96)) := by decide +kernel
  have hfoldf : f.fold 16 = some (.long (-9223372036854775808)) := by decide +kernel
  obtain rfl : r = -96 := by simpa using hr.symm.trans hfolde
  obtain rfl : t = -9223372036854775808 := by simpa using ht.symm.trans hfoldf
  exact ⟨⟨nofun, he, by decide +kernel, hr, huniquer⟩, nofun, hf, by decide +kernel, ht, huniquet⟩

end Expr

end VirtualFields
