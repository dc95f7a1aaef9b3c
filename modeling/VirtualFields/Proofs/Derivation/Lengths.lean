import VirtualFields.Proofs.Derivation.Precision
import VirtualFields.Proofs.Value.Meaning

/-!
# Derived lengths

The constants that are derived for lengths are `int` constants.  Those that count elements or
UTF-16 units lie in the interval of lengths.  The first dimension of an array creation may
fold to a negative `int`, with which no array can be created; it is taken for the length all
the same, and this is the only way for a derived constant to be no length
(`VirtualField.isLength_iff_not_createsNegative`).
-/

namespace VirtualFields

/-! ### Lengths -/

/-- A constant is a length if it is an `int` in the interval of lengths. -/
def Constant.IsLength (c : Constant) : Prop :=
  ∃ n : Int32, c = .int n ∧ Interval.lengths.contains n.toInt64

/-- The interval of lengths contains the `int` values that are not negative. -/
theorem Interval.contains_lengths_iff (n : Int32) :
  Interval.lengths.contains n.toInt64 ↔ ¬ n < 0
  := by
  have hmax : Interval.lengths.max.toInt = 0x7fffffff := rfl
  have hmin : Interval.lengths.min.toInt = 0 := rfl
  have hzero : (0 : Int32).toInt = 0 := rfl
  have hlt := n.toInt_lt
  rw [contains, Bool.and_eq_true, decide_eq_true_iff, decide_eq_true_iff, Int64.le_iff_toInt_le,
    Int64.le_iff_toInt_le, Int32.lt_iff_toInt_lt, Int32.toInt_toInt64, hmin, hmax, hzero]
  omega

theorem Constant.isLength_int_iff {n : Int32} :
  (int n).IsLength ↔ ¬ n < 0
  := by
  rw [← Interval.contains_lengths_iff]
  constructor
  · rintro ⟨_, heq, hn⟩
    cases heq
    exact hn
  · intro hn
    use n

/-- A count that an `int` can hold is a length. -/
theorem isLength_of_lengthConstant? {n : Nat} {c : Constant} (h : lengthConstant? n = some c) :
  c.IsLength
  := by
  obtain ⟨hn, hc⟩ := Option.ite_none_right_eq_some.mp h
  obtain rfl := Option.some.inj hc
  obtain ⟨v, hv, hcontains⟩ := Interval.lengths_describes ⟨n, hn⟩
  cases hv
  use .ofNat n

/-! ### Initializers -/

/-- An expression creates an array with a first dimension that folds to a negative `int`. -/
def Expr.CreatesNegative (depth : Nat) (e : Expr) : Prop :=
  ∃ element dimension dimensions n, e = .newArray element (dimension :: dimensions)
    ∧ dimension.fold depth = some (.int n) ∧ n < 0

namespace VirtualField

variable {f : VirtualField} {depth : Nat} {e : Expr} {c : Constant}

/-- The length of a literal is a length. -/
theorem isLength_of_ofConstant? {k : Constant} (h : f.ofConstant? k = some c) :
  c.IsLength
  := by
  obtain ⟨-, s, -, hlength, rfl⟩ := ofConstant?_eq_some_iff.mp h
  exact isLength_of_lengthConstant? (if_pos hlength)

/-- The constant that an initializer gives is the first dimension of an array creation, or
it is a count of elements or units. -/
theorem dimension_or_count (h : f.ofInitializer? depth e = some c) :
  (∃ element dimension dimensions n, e = .newArray element (dimension :: dimensions)
      ∧ dimension.fold depth = some (.int n) ∧ c = .int n)
    ∨ ¬ e.CreatesNegative depth ∧ c.IsLength
  := by
  cases f with
  | arrayLength =>
    cases e with
    | arrayLiteral elements => exact Or.inr ⟨nofun, isLength_of_lengthConstant? h⟩
    | newArrayOf element dimensions elements =>
      exact Or.inr ⟨nofun, isLength_of_lengthConstant? h⟩
    | newArray element dimensions =>
      cases dimensions with
      | nil => contradiction
      | cons dimension dimensions =>
        left
        rw [ofInitializer?, ofInitializerBy?] at h
        split at h
        next n hn =>
          cases h
          use element, dimension, dimensions, n
        next => contradiction
    | _ => contradiction
  | stringLength =>
    right
    obtain ⟨k, hk, hc⟩ := Option.bind_eq_some_iff.mp h
    constructor
    · -- The creation of an array is no constant expression.
      rintro ⟨element, dimension, dimensions, n, rfl, -⟩
      contradiction
    · exact isLength_of_ofConstant? hc
  | _ => contradiction

/-- The constant that an initializer gives for a length is an `int`, and it is a length
unless the initializer creates an array with a negative dimension. -/
theorem isLength_of_ofInitializer?_iff (h : f.ofInitializer? depth e = some c) :
  (∃ n, c = .int n) ∧ (c.IsLength ↔ ¬ e.CreatesNegative depth)
  := by
  rcases dimension_or_count h with ⟨element, dimension, dimensions, n, rfl, hn, rfl⟩ | ⟨hno, hc⟩
  · use ⟨n, rfl⟩
    rw [Constant.isLength_int_iff, not_iff_not]
    constructor
    · intro hnegative
      use element, dimension, dimensions, n
    · rintro ⟨_, _, _, m, heq, hm, hnegative⟩
      cases heq
      rw [hn] at hm
      cases hm
      exact hnegative
  · constructor
    · obtain ⟨n, hn, -⟩ := hc
      use n
    · exact iff_of_true hc hno

/-! ### Derived constants -/

/-- The value of a virtual field on a constant is a constant exactly when it is the length of
a literal. -/
theorem create_constant_eq_constant_iff {env : Collaborators} {t : VariableTable} {k : Constant}
    {target : Option Ty} :
  (f.create env t (some (.constant k)) target).answer = .constant c ↔ f.ofConstant? k = some c
  := by
  rw [create, derive_constant]
  cases f.ofConstant? k with
  | none =>
    cases f with
    | _ => simp [Derivation.create, defaultValue, Value.ofInterval, Value.ofNullability]
  | some d => simp [Derivation.create]

/-- The constant that an initializer or a literal gives for a length is an `int`, and it is
a length but for the initializers that create an array with a negative dimension.  So a
constant that is derived for a variable or a literal lies in the interval of the default
value exactly when the variable does not stand for a static final field with such an
initializer. -/
theorem isLength_iff_not_createsNegative (f : VirtualField) (types : TypeResolver) (depth : Nat)
    (config : Config) :
  let env : Collaborators := .configured types depth config
  (∀ e c, f.ofInitializer? depth e = some c →
      (∃ n, c = .int n) ∧ (c.IsLength ↔ ¬ e.CreatesNegative depth))
    ∧ (∀ k c, f.ofConstant? k = some c → c.IsLength)
    ∧ (∀ (t : VariableTable) (k c : Constant) (target : Option Ty),
        (f.create env t (some (.constant k)) target).answer = .constant c → c.IsLength)
    ∧ (∀ (t : VariableTable) (v : Variable Ref) (target : Option Ty) (c : Constant),
        (f.create env t (some (.var v)) target).answer = .constant c →
          ∃ d e, v.field? = some d ∧ d.staticInitializer? = some e
            ∧ (c.IsLength ↔ ¬ e.CreatesNegative depth))
  := by
  intro env
  and_intros
  · intro e c h
    exact isLength_of_ofInitializer?_iff h
  · intro k c h
    exact isLength_of_ofConstant? h
  · intro t k c target h
    exact isLength_of_ofConstant? (create_constant_eq_constant_iff.mp h)
  · intro t v target c h
    rw [create_var_eq_constant_iff, ofTrusted?_eq_some_iff] at h
    obtain ⟨d, e, hd, -, he, hc⟩ := h
    use d, e, hd, he
    exact (isLength_of_ofInitializer?_iff hc).2

/-- The length of an array that is created with the size of the settings is a length. -/
theorem isLength_settings :
  ∃ c, (arrayLength.create .stock { label := 0 } (some (.var settingsArray)) none).answer
      = .constant c ∧ c.IsLength
  := by
  have hfour : (arrayLength.create .stock { label := 0 } (some (.var settingsArray)) none).answer
      = .constant (.int 4) := by
    decide +kernel
  use .int 4, hfour
  obtain ⟨-, -, -, hvariable⟩ :=
    isLength_iff_not_createsNegative arrayLength Hierarchy.jdk defaultDepth {}
  obtain ⟨d, e, hd, he, hlength⟩ := hvariable _ settingsArray none _ hfour
  cases hd
  cases he
  rw [hlength]
  rintro ⟨_, _, _, n, heq, hn, hnegative⟩
  cases heq
  have hsize : (Expr.read settingsSize).fold defaultDepth = some (.int 4) := by decide +kernel
  cases hsize.symm.trans hn
  contradiction

/-- Not all constants that initializers give for lengths are lengths: the creation of an
array with a dimension of minus one gives minus one. -/
theorem not_all_isLength :
  ¬ ∀ (depth : Nat) (e : Expr) (c : Constant),
    arrayLength.ofInitializer? depth e = some c → c.IsLength
  := by
  intro hall
  have hlength := hall 0 (.newArray .int [.literal (.int (-1))]) (.int (-1)) rfl
  rw [Constant.isLength_int_iff] at hlength
  exact hlength (by decide)

end VirtualField

end VirtualFields
