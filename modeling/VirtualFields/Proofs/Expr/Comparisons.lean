import VirtualFields.Proofs.Expr.Polynomials

/-!
# Comparisons

A comparison of two numeric constants folds to whether the integers that they stand for are
related, whichever of them are widened on the way.  The negation of a comparison folds as the
comparison by the negated relation does, on all operands: either both have the same truth value
or both have none (`Expr.fold_comparison`).
-/

namespace VirtualFields

namespace Relation

variable (r : Relation)

/-! ### Relations of integers -/

/-- The relation of integers that is meant. -/
def Relates (v u : Int) : Prop :=
  match r with
  | eq => v = u
  | ne => v ≠ u
  | lt => v < u
  | le => v ≤ u
  | gt => v > u
  | ge => v ≥ u

instance (v u : Int) : Decidable (r.Relates v u) :=
  match r with
  | eq => inferInstanceAs (Decidable (v = u))
  | ne => inferInstanceAs (Decidable (v ≠ u))
  | lt => inferInstanceAs (Decidable (v < u))
  | le => inferInstanceAs (Decidable (v ≤ u))
  | gt => inferInstanceAs (Decidable (v > u))
  | ge => inferInstanceAs (Decidable (v ≥ u))

/-- The negated relation relates the integers that the relation does not relate. -/
theorem relates_negated_iff (v u : Int) :
  r.negated.Relates v u ↔ ¬ r.Relates v u
  := by
  cases r with
  | eq => rfl
  | ne => exact not_not.symm
  | lt => exact not_lt.symm
  | le => exact not_le.symm
  | gt => exact not_lt.symm
  | ge => exact not_le.symm

/-- A relation holds between words if it relates the integers that the words stand for. -/
theorem holds_eq_decide {w : Nat} (a b : BitVec w) :
  r.holds a b = decide (r.Relates a.toInt b.toInt)
  := by
  rw [Bool.eq_iff_iff, decide_eq_true_iff]
  cases r with
  | eq => simp [holds, Relates, BitVec.toInt_inj]
  | ne => simp [holds, Relates, BitVec.toInt_inj]
  | lt => exact BitVec.slt_iff_toInt_lt
  | le => exact BitVec.sle_iff_toInt_le
  | gt => exact BitVec.slt_iff_toInt_lt
  | ge => exact BitVec.sle_iff_toInt_le

end Relation

namespace BinaryOp

variable (r : Relation)

/-! ### Comparisons of constants -/

/-- A relation holds between numbers if it relates the integers that the numbers stand for. -/
theorem onNumbers_compare (m n : Number) :
  (compare r).onNumbers m n = some (.bool (decide (r.Relates m.toInt n.toInt)))
  := by
  obtain ⟨w, a, b, wrap, hwords, ha, hb, -⟩ := exists_onWords (compare r) nofun m n
  rw [hwords, onWords, r.holds_eq_decide, ha, hb]

/-- Truth values are related by equality only, and so by its negation. -/
theorem onBools_compare_negated (s t : Bool) :
  (compare r.negated).onBools s t = ((compare r).onBools s t).map not
  := by
  cases r with
  | eq =>
    revert s t
    decide
  | ne =>
    revert s t
    decide
  | _ => rfl

/-- The relation of two constants and the negated one have opposite truth values, or both have
no value. -/
theorem eval?_compare_negated (a b : Constant) :
  ∃ x : Option Bool, (compare r).eval? a b = x.map .bool
    ∧ (compare r.negated).eval? a b = x.map fun t => .bool !t
  := by
  have hstr (r : Relation) : ¬ (compare r).concatenates a b := by
    simp [concatenates]
  by_cases hbool : a.kind = .bool ∧ b.kind = .bool
  · obtain ⟨s, rfl⟩ := Constant.eq_bool_of_kind hbool.1
    obtain ⟨t, rfl⟩ := Constant.eq_bool_of_kind hbool.2
    use (compare r).onBools s t
    constructor
    · rfl
    · rw [eval?, if_neg (hstr r.negated), onBools_compare_negated, Option.map_map]
      rfl
  · rw [eval?_of_numbers _ (hstr r) (not_and.mp hbool),
      eval?_of_numbers _ (hstr r.negated) (not_and.mp hbool)]
    cases a.number? with
    | none => exact ⟨none, rfl, rfl⟩
    | some m =>
      cases b.number? with
      | none => exact ⟨none, rfl, rfl⟩
      | some n =>
        use some (decide (r.Relates m.toInt n.toInt))
        constructor
        · apply onNumbers_compare
        · rw [Option.bind_some, Option.bind_some, onNumbers_compare]
          simp [r.relates_negated_iff]

end BinaryOp

namespace Expr

/-- A comparison and the one by the negated relation fold to opposite truth values, or both to
nothing. -/
theorem fold_compare_negated (depth : Nat) (r : Relation) (d e : Expr) :
  ∃ x : Option Bool, (binary (.compare r) d e).fold depth = x.map .bool
    ∧ (binary (.compare r.negated) d e).fold depth = x.map fun t => .bool !t
  := by
  rw [fold, fold]
  cases d.fold depth with
  | none => exact ⟨none, rfl, rfl⟩
  | some a =>
    cases e.fold depth with
    | none => exact ⟨none, rfl, rfl⟩
    | some b => apply BinaryOp.eval?_compare_negated

/-- A comparison of numeric constants folds to whether the integers that they stand for are
related.  On all operands the negation of a comparison folds to what the comparison by the
negated relation folds to, and the comparisons by a relation and by its negated relation fold
or fail to fold together. -/
theorem fold_comparison (depth : Nat) (r : Relation) (d e : Expr) :
  (∀ a b k l, d.fold depth = some a → e.fold depth = some b →
      a.kind.promoted? = some k → b.kind.promoted? = some l →
        (binary (.compare r) d e).fold depth
          = some (.bool (decide (r.Relates a.integer b.integer))))
    ∧ (unary .not (binary (.compare r) d e)).fold depth
      = (binary (.compare r.negated) d e).fold depth
    ∧ ((binary (.compare r) d e).fold depth = none
      ↔ (binary (.compare r.negated) d e).fold depth = none)
  := by
  obtain ⟨x, hcompare, hnegated⟩ := fold_compare_negated depth r d e
  and_intros
  · intro a b k l hd he hk hl
    have hm := Constant.number?_eq_wrap hk
    have hn := Constant.number?_eq_wrap hl
    rw [fold_binary _ hd he, BinaryOp.eval?_eq_onNumbers _ hm hn, BinaryOp.onNumbers_compare,
      Constant.toInt_of_number? hm, Constant.toInt_of_number? hn]
  · rw [fold, hcompare, hnegated]
    cases x with
    | _ => rfl
  · rw [hcompare, hnegated]
    simp

/-- A character equals the `long` of its code point, the least `long` is less than the least
`int`, truth values are equal or not but in no order, and strings are not compared at all. -/
theorem fold_comparison_kinds :
  let compare (r : Relation) (a b : Constant) := binary (.compare r) (.literal a) (.literal b)
  (compare .eq (.char 'a') (.long 97)).fold 16 = some (.bool true)
    ∧ (unary .not (compare .eq (.char 'a') (.long 97))).fold 16 = some (.bool false)
    ∧ (compare .lt (.long (-9223372036854775808)) (.int (-2147483648))).fold 16
      = some (.bool true)
    ∧ (unary .not (compare .ne (.bool true) (.bool true))).fold 16
      = (compare .eq (.bool true) (.bool true)).fold 16
    ∧ (compare .ge (.bool true) (.bool false)).fold 16 = none
    ∧ (unary .not (compare .eq (.str "a") (.str "a"))).fold 16
      = (compare .ne (.str "a") (.str "a")).fold 16
  := by
  intro compare
  have hfold (r : Relation) (a b : Constant) :=
    fold_comparison 16 r (.literal a) (.literal b)
  have hletter := (hfold .eq (.char 'a') (.long 97)).1 _ _ .int .long rfl rfl rfl rfl
  have hminimum := (hfold .lt (.long (-9223372036854775808)) (.int (-2147483648))).1
    _ _ .long .int rfl rfl rfl rfl
  and_intros
  · rw [hletter]
    decide +kernel
  · rw [(hfold .eq (.char 'a') (.long 97)).2.1]
    decide +kernel
  · rw [hminimum]
    decide +kernel
  · apply (hfold .ne (.bool true) (.bool true)).2.1
  · apply (hfold .ge (.bool true) (.bool false)).2.2.mpr
    rfl
  · apply (hfold .eq (.str "a") (.str "a")).2.1

end Expr

end VirtualFields
