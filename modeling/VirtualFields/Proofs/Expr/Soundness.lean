import VirtualFields.Proofs.Expr.Kind

/-!
# Soundness of kinds

The constant that an expression folds to has the kind inferred for the expression
(`kind?_of_fold`).  Conversely, folding an expression with a kind returns a constant
unless, on the way, it divides by zero or reads a static final field at the limit
(`Call.value?_or_stuck`); it returns nothing if it does (`Call.Stuck.value?_eq_none`).
-/

namespace VirtualFields.Expr

/-! ### Kinds of folded constants -/

/-- The constant that an expression folds to has the inferred kind. -/
theorem kind?_of_fold {depth : Nat} {e : Expr} {c : Constant} (h : e.fold depth = some c) :
  e.kind? = some c.kind
  := by
  induction e using foldInduction generalizing depth c with
  | literal d =>
    cases h
    rfl
  | unary op e ih =>
    obtain ⟨d, hd, hc⟩ := Option.bind_eq_some_iff.mp h
    rw [kind?, ih hd, Option.bind_some, ← op.map_kind_eval?, hc, Option.map_some]
  | binary op d e ihd ihe =>
    obtain ⟨a, ha, h⟩ := Option.bind_eq_some_iff.mp h
    obtain ⟨b, hb, hc⟩ := Option.bind_eq_some_iff.mp h
    have hkind := op.map_kind_eval? a b
    rw [hc, Option.map_some] at hkind
    split at hkind
    · contradiction
    · rw [kind?, ihd ha, Option.bind_some, ihe hb, Option.bind_some, ← hkind]
  | followed f e he ih =>
    cases depth with
    | zero => simp at h
    | succ depth =>
      rw [fold_succ_read, he] at h
      rw [kind?_read, he, Option.bind_some]
      exact ih h
  | unfollowed f hf =>
    cases depth with
    | zero => simp at h
    | succ depth => simp [hf] at h
  | arrayLiteral => contradiction
  | newArray => contradiction
  | newArrayOf => contradiction
  | opaqueText => contradiction

/-- An inferred kind is the kind of the constant that the expression folds to. -/
theorem kind_unique {depth : Nat} {e : Expr} {c : Constant} {k : Kind}
    (hc : e.fold depth = some c) (hk : e.kind? = some k) :
  k = c.kind
  := by
  rw [kind?_of_fold hc] at hk
  exact (Option.some.inj hk).symm

/-! ### Stuck calls -/

namespace Call

variable {limit : Nat} {a : Call}

/-- A call is stuck if it reads a static final field at the limit, or divides by zero. -/
inductive Stuck (limit : Nat) : Call → Prop where
  | exhausted {n f e} (hn : limit ≤ n) (he : f.staticInitializer? = some e) :
      Stuck limit ⟨n, .read f⟩
  | zero {n op d e c} (hop : op.divides) (hc : value? limit ⟨n, e⟩ = some c)
      (hzero : c.isZero) : Stuck limit ⟨n, .binary op d e⟩

/-- A call that is stuck returns nothing. -/
theorem Stuck.value?_eq_none (h : a.Stuck limit) :
  a.value? limit = none
  := by
  cases h with
  | exhausted hn he => rw [value?_read, if_pos hn]
  | @zero n op d e c hop hc hzero =>
    have hnone : ∀ b, op.eval? b c = none := by
      intro b
      have hkind := op.map_kind_eval? b c
      rw [if_pos ⟨hop, hzero⟩] at hkind
      exact Option.map_eq_none_iff.mp hkind
    rw [value?] at hc
    simp [value?, fold, hc, hnone]

/-- A call of an expression with a kind returns a constant, or a call made on its behalf is
stuck. -/
theorem value?_or_stuck (limit n : Nat) {e : Expr} {k : Kind} (hk : e.kind? = some k) :
  (∃ c, value? limit ⟨n, e⟩ = some c) ∨ ∃ a, Reaches limit ⟨n, e⟩ a ∧ a.Stuck limit
  := by
  induction e using foldInduction generalizing n k with
  | literal c =>
    left
    use c
    rfl
  | unary op e ih =>
    obtain ⟨l, hl, hk⟩ := Option.bind_eq_some_iff.mp hk
    rcases ih n hl with ⟨c, hc⟩ | ⟨a, ha, hstuck⟩
    · left
      obtain rfl := kind_unique hc hl
      rw [← op.map_kind_eval?] at hk
      obtain ⟨d, hd, -⟩ := Option.map_eq_some_iff.mp hk
      use d
      rw [value?] at hc ⊢
      rw [fold, hc, Option.bind_some, hd]
    · right
      use a, ha.head .operand
  | binary op d e ihd ihe =>
    obtain ⟨l, hl, hk⟩ := Option.bind_eq_some_iff.mp hk
    obtain ⟨m, hm, hk⟩ := Option.bind_eq_some_iff.mp hk
    rcases ihd n hl with ⟨x, hx⟩ | ⟨a, ha, hstuck⟩
    · rcases ihe n hm with ⟨y, hy⟩ | ⟨a, ha, hstuck⟩
      · obtain rfl := kind_unique hx hl
        obtain rfl := kind_unique hy hm
        by_cases hzero : op.divides ∧ y.isZero
        · right
          use ⟨n, .binary op d e⟩, .refl, .zero hzero.1 hy hzero.2
        · left
          have hkind := op.map_kind_eval? x y
          rw [if_neg hzero, hk] at hkind
          obtain ⟨z, hz, -⟩ := Option.map_eq_some_iff.mp hkind
          use z
          rw [value?] at hx hy ⊢
          rw [fold, hx, Option.bind_some, hy, Option.bind_some, hz]
      · right
        use a, ha.head (.right hx)
    · right
      use a, ha.head .left
  | followed f e he ih =>
    rw [kind?_read, he, Option.bind_some] at hk
    by_cases hn : limit ≤ n
    · right
      use ⟨n, .read f⟩, .refl, .exhausted hn he
    · rcases ih (n + 1) hk with ⟨c, hc⟩ | ⟨a, ha, hstuck⟩
      · left
        use c
        rw [value?_read, if_neg hn, he, Option.bind_some, hc]
      · right
        use a, ha.head (.initializer (Nat.lt_of_not_le hn) he)
  | unfollowed f hf => simp [hf] at hk
  | arrayLiteral => contradiction
  | newArray => contradiction
  | newArrayOf => contradiction
  | opaqueText => contradiction

end Call

/-- Folding an expression gets stuck on the way. -/
def GetsStuck (limit : Nat) (e : Expr) : Prop :=
  ∃ a, Call.Reaches limit ⟨0, e⟩ a ∧ a.Stuck limit

/-- Folding is sound for the inferred kinds: a folded constant has the kind inferred for the
expression, an expression with a kind folds to a constant of that kind or gets stuck, and
an expression on which folding gets stuck folds to nothing. -/
theorem fold_sound (limit : Nat) (e : Expr) :
  (∀ c, e.fold limit = some c → e.kind? = some c.kind)
    ∧ (∀ k, e.kind? = some k →
        (∃ c, e.fold limit = some c ∧ c.kind = k) ∨ e.GetsStuck limit)
    ∧ (e.GetsStuck limit → e.fold limit = none)
  := by
  and_intros
  · intro c hc
    exact kind?_of_fold hc
  · intro k hk
    rcases Call.value?_or_stuck limit 0 hk with ⟨c, hc⟩ | h
    · left
      use c, hc, (kind_unique hc hk).symm
    · right
      exact h
  · rintro ⟨a, hreaches, hstuck⟩
    exact hreaches.value?_eq_none hstuck.value?_eq_none

/-- A sum of a character and an `int` has the kind of its value, and a quotient of a `long`
by zero has a kind but gets stuck. -/
theorem fold_sound_sum_quotient :
  let sum := Expr.binary (.arithmetic .add) (.literal (.char 'a')) (.literal (.int 1))
  let quotient := Expr.binary (.arithmetic .div) (.literal (.long 1)) (.literal (.int 0))
  (sum.fold 16 = some (.int 98) ∧ sum.kind? = some .int)
    ∧ (quotient.kind? = some .long ∧ quotient.GetsStuck 16 ∧ quotient.fold 16 = none)
  := by
  intro sum quotient
  have hquotient : quotient.GetsStuck 16 := by
    apply ((fold_sound 16 quotient).2.1 .long rfl).resolve_left
    rintro ⟨c, hc, -⟩
    contradiction
  exact ⟨⟨rfl, (fold_sound 16 sum).1 (.int 98) rfl⟩, rfl, hquotient,
    (fold_sound 16 quotient).2.2 hquotient⟩

end VirtualFields.Expr
