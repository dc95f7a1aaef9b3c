import VirtualFields.Proofs.Expr.Kind
import VirtualFields.Samples

/-!
# Declared types of fields

A static final field holds the constant of its initializer converted to the declared type, and
`Expr.foldDeclared` folds reads to the constants that the fields hold.  Folding as such takes
no notice of declared types: a read folds to the constant that the field holds exactly if
nothing is converted, and an expression folds as with declared types if nothing is converted
by the reads on the way (`Expr.fold_read_assigned_iff`).
-/

namespace VirtualFields

namespace Constant

variable {c : Constant} {t : Ty}

/-- The constant that a field of a type holds if it is initialized with a constant: a `long`
field holds the `long` of an `int` or a character, and an `int` field the `int` of a
character. -/
def assigned (c : Constant) (t : Ty) : Constant :=
  match t, c with
  | .primitive .long, .int v => .long v.toInt64
  | .primitive .long, .char a => .long (.ofNat a.toNat)
  | .primitive .int, .char a => .int (.ofNat a.toNat)
  | _, c => c

/-- A field of a type holds a constant of another kind than the one it is initialized with. -/
def Converts (c : Constant) (t : Ty) : Prop :=
  t = .primitive .long ∧ (c.kind = .int ∨ c.kind = .char)
    ∨ t = .primitive .int ∧ c.kind = .char

/-- The constant that a field holds is the one it is initialized with exactly if it is not
converted. -/
theorem assigned_eq_self_iff :
  c.assigned t = c ↔ ¬ c.Converts t
  := by
  rcases t with p | _ | _
  · cases p with
    | long => cases c with
      | _ => simp [assigned, Converts, kind]
    | int => cases c with
      | _ => simp [assigned, Converts, kind]
    | _ => simp [assigned, Converts]
  · simp [assigned, Converts]
  · simp [assigned, Converts]

end Constant

namespace Expr

/-- The constant an expression folds to if reads are folded to the constants that the fields
hold. -/
def foldDeclared (depth : Nat) : Expr → Option Constant
  | .literal c => some c
  | .unary op e => (e.foldDeclared depth).bind op.eval?
  | .binary op d e =>
    (d.foldDeclared depth).bind fun a => (e.foldDeclared depth).bind fun b => op.eval? a b
  | .read ⟨decl, type, _, some e⟩ =>
    match depth with
    | 0 => none
    | depth + 1 =>
      if decl.modifiers.isStaticFinal then (e.foldDeclared depth).map (·.assigned type) else none
  | .read ⟨_, _, _, none⟩ => none
  | .arrayLiteral _ | .newArray .. | .newArrayOf .. | .opaqueText _ => none

@[simp]
theorem foldDeclared_zero_read (f : Field Expr) :
  (read f).foldDeclared 0 = none
  := by
  obtain ⟨_, _, _, _ | e⟩ := f
  · rfl
  · rfl

@[simp]
theorem foldDeclared_succ_read (depth : Nat) (f : Field Expr) :
  (read f).foldDeclared (depth + 1)
    = f.staticInitializer?.bind fun e => (e.foldDeclared depth).map (·.assigned f.type)
  := by
  obtain ⟨decl, _, _, _ | e⟩ := f
  · simp [foldDeclared, Field.staticInitializer?]
  · cases h : decl.modifiers.isStaticFinal with
    | true => simp [foldDeclared, Field.staticInitializer?, h]
    | false => simp [foldDeclared, Field.staticInitializer?, h]

namespace Call

/-- No read that is made on behalf of a call returns a constant that the field holds
converted. -/
def ConvertsNothing (limit : Nat) (a : Call) : Prop :=
  ∀ b f c, Reaches limit a b → b.expr = .read f → b.value? limit = some c → ¬ c.Converts f.type

variable {limit : Nat} {a b : Call}

/-- Nothing is converted on behalf of a call exactly if the call itself is no read that
converts and nothing is converted on behalf of the calls it makes. -/
theorem convertsNothing_iff :
  a.ConvertsNothing limit
    ↔ (∀ f c, a.expr = .read f → a.value? limit = some c → ¬ c.Converts f.type)
      ∧ ∀ b, Step limit a b → b.ConvertsNothing limit
  := by
  constructor
  · intro h
    constructor
    · intro f c
      apply h a f c .refl
    · intro b hstep b' f c hreaches
      apply h b' f c (hreaches.head hstep)
  · rintro ⟨hself, hsteps⟩ b f c hreaches
    rcases hreaches.cases_head with rfl | ⟨b', hstep, hreaches⟩
    · apply hself
    · apply hsteps b' hstep b f c hreaches

theorem ConvertsNothing.of_step (h : a.ConvertsNothing limit) (hstep : Step limit a b) :
  b.ConvertsNothing limit
  := by
  apply (convertsNothing_iff.mp h).2 b hstep

theorem convertsNothing_literal (limit n : Nat) (c : Constant) :
  ConvertsNothing limit ⟨n, .literal c⟩
  := by
  apply convertsNothing_iff.mpr
  constructor
  · nofun
  · nofun

/-- A call on whose behalf nothing is converted returns the constant that folding with
declared types gives. -/
theorem ConvertsNothing.value?_eq {n : Nat} {e : Expr} (h : ConvertsNothing limit ⟨n, e⟩) :
  value? limit ⟨n, e⟩ = e.foldDeclared (limit - n)
  := by
  induction e using foldInduction generalizing n with
  | literal c => rfl
  | unary op e ih =>
    have he := ih (h.of_step .operand)
    rw [value?] at he ⊢
    rw [fold, foldDeclared, he]
  | binary op d e ihd ihe =>
    have hd := ihd (h.of_step .left)
    -- The right operand is only folded if the left one has a value.
    cases hx : value? limit ⟨n, d⟩ with
    | none =>
      rw [hx] at hd
      rw [value?] at hx ⊢
      rw [fold, foldDeclared, hx, ← hd]
      rfl
    | some x =>
      have he := ihe (h.of_step (.right hx))
      rw [value?] at hd he ⊢
      rw [fold, foldDeclared, hd, he]
  | followed f e he ih =>
    by_cases hn : limit ≤ n
    · rw [value?, Nat.sub_eq_zero_of_le hn, fold_zero_read, foldDeclared_zero_read]
    · have hn := Nat.lt_of_not_le hn
      have hread : value? limit ⟨n, .read f⟩ = value? limit ⟨n + 1, e⟩ := by
        rw [value?_read, if_neg (Nat.not_le_of_lt hn), he, Option.bind_some]
      have hinitializer := ih (h.of_step (.initializer hn he))
      rw [show limit - n = limit - (n + 1) + 1 by omega, foldDeclared_succ_read, he,
        Option.bind_some, ← hinitializer, hread]
      cases hc : value? limit ⟨n + 1, e⟩ with
      | none => rfl
      | some c =>
        have hconverts := h ⟨n, .read f⟩ f c .refl rfl (hread.trans hc)
        rw [Option.map_some, Constant.assigned_eq_self_iff.mpr hconverts]
  | unfollowed f hf =>
    cases hdepth : limit - n with
    | zero => simp [value?, hdepth]
    | succ depth => simp [value?, hdepth, hf]
  | arrayLiteral => rfl
  | newArray => rfl
  | newArrayOf => rfl
  | opaqueText => rfl

end Call

/-- A read of a static final field folds to the constant of the initializer, whatever the
declared type is, so it folds to the constant that the field holds exactly if the constant is
not converted.  An expression folds as with declared types if no read on the way converts. -/
theorem fold_read_assigned_iff (limit : Nat) :
  (∀ (f : Field Expr) (e : Expr) (c : Constant),
      f.staticInitializer? = some e → e.fold limit = some c →
        (read f).fold (limit + 1) = some c
          ∧ ((read f).fold (limit + 1) = some (c.assigned f.type) ↔ ¬ c.Converts f.type))
    ∧ ∀ e, Call.ConvertsNothing limit ⟨0, e⟩ → e.fold limit = e.foldDeclared limit
  := by
  constructor
  · intro f e c he hc
    have hread : (read f).fold (limit + 1) = some c := by
      rw [fold_succ_read, he, Option.bind_some, hc]
    use hread
    rw [hread, Option.some_inj, eq_comm]
    apply Constant.assigned_eq_self_iff
  · intro e h
    apply h.value?_eq

/-! ### Fields of type `long` -/

/-- The field `LIMIT` of type `long` with an initializer. -/
def limitField (initializer : Constant) : Field Expr :=
  Samples.staticFinalField "LIMIT" (.primitive .long) (.literal initializer)

/-- The sum of `LIMIT` and one. -/
def limitSuccessor (initializer : Constant) : Expr :=
  .binary (.arithmetic .add) (.read (limitField initializer)) (.literal (.int 1))

/-- A `long` field that is initialized with a `long` is read as it is held, and so the sum of the
field and one is the one of `long`s. -/
theorem fold_read_assigned_iff_long :
  let c := Constant.long 2147483647
  (limitField c).staticInitializer? = some (.literal c) ∧ ¬ c.Converts (limitField c).type
    ∧ (read (limitField c)).fold 16 = some (c.assigned (limitField c).type)
    ∧ Call.ConvertsNothing 16 ⟨0, limitSuccessor c⟩
    ∧ (limitSuccessor c).fold 16 = (limitSuccessor c).foldDeclared 16
    ∧ (limitSuccessor c).fold 16 = some (.long 2147483648)
  := by
  intro c
  have hinitializer : (limitField c).staticInitializer? = some (.literal c) := by decide +kernel
  have hconverts : ¬ c.Converts (limitField c).type := by
    rintro (⟨-, h | h⟩ | ⟨-, h⟩)
    · contradiction
    · contradiction
    · contradiction
  have hread := ((fold_read_assigned_iff 15).1 _ _ c hinitializer rfl).2.mpr hconverts
  have hnothing : Call.ConvertsNothing 16 ⟨0, limitSuccessor c⟩ := by
    apply Call.convertsNothing_iff.mpr
    use nofun
    intro b hstep
    cases hstep with
    | left =>
      apply Call.convertsNothing_iff.mpr
      constructor
      · intro f x hf hx
        cases hf
        cases hx
        exact hconverts
      · intro b hstep
        cases hstep with
        | initializer _ he =>
          cases hinitializer.symm.trans he
          apply Call.convertsNothing_literal
    | right => apply Call.convertsNothing_literal
  exact ⟨hinitializer, hconverts, hread, hnothing, (fold_read_assigned_iff 16).2 _ hnothing,
    by decide +kernel⟩

/-- Not all reads fold to the constants that the fields hold: a `long` field that is initialized
with an `int` folds to the `int`. -/
theorem not_all_reads_assigned :
  ¬ ∀ (limit : Nat) (f : Field Expr) (e : Expr) (c : Constant),
    f.staticInitializer? = some e → e.fold limit = some c →
      (read f).fold (limit + 1) = some (c.assigned f.type)
  := by
  intro hall
  have h := hall 0 (limitField (.int 2147483647)) _ (.int 2147483647) rfl rfl
  contradiction

/-- The sum of a `long` field and one overflows as a sum of `int`s if the field is initialized
with an `int`. -/
example :
    (limitSuccessor (.int 2147483647)).fold 16 = some (.int (-2147483648))
      ∧ (limitSuccessor (.int 2147483647)).foldDeclared 16 = some (.long 2147483648) := by
  decide +kernel

end Expr

end VirtualFields
