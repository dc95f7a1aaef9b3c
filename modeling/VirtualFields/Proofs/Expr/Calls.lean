import Mathlib.Logic.Relation
import VirtualFields.Expr.Fold

/-!
# The calls of folding

Folding an expression folds its operands, and the initializers of the static final fields
it reads.  A call is an expression together with the number of field reads that were
followed to get to it.  `Call.Step limit` relates a call to the calls it makes when up to
`limit` nested reads are followed, and `Call.Reaches limit` relates it to all calls made
on its behalf.  Folding is strict: a call has no value if one of the calls it makes has
none.
-/

namespace VirtualFields.Expr

/-- An operator whose operands fold has the value of the operator on their constants. -/
theorem fold_binary {depth : Nat} (op : BinaryOp) {d e : Expr} {a b : Constant}
    (hd : d.fold depth = some a) (he : e.fold depth = some b) :
  (binary op d e).fold depth = op.eval? a b
  := by
  rw [fold, hd, Option.bind_some, he, Option.bind_some]

/-! ### Reads of fields -/

@[simp]
theorem fold_zero_read (f : Field Expr) :
  (read f).fold 0 = none
  := by
  obtain ⟨_, _, _, _ | e⟩ := f
  · rfl
  · rfl

/-- A read is folded by folding the initializer of its static final field with one read
less to follow. -/
@[simp]
theorem fold_succ_read (depth : Nat) (f : Field Expr) :
  (read f).fold (depth + 1) = f.staticInitializer?.bind (fold depth)
  := by
  obtain ⟨decl, _, _, _ | e⟩ := f
  · simp [fold, Field.staticInitializer?]
  · cases h : decl.modifiers.isStaticFinal with
    | true => simp [fold, Field.staticInitializer?, h]
    | false => simp [fold, Field.staticInitializer?, h]

/-- Induction on the expressions that folding folds on the way to the value of an
expression: the operands of an operator, and the initializer of a static final field that
is read. -/
@[elab_as_elim]
theorem foldInduction {motive : Expr → Prop}
    (literal : ∀ c, motive (.literal c))
    (unary : ∀ op e, motive e → motive (.unary op e))
    (binary : ∀ op d e, motive d → motive e → motive (.binary op d e))
    (followed : ∀ f e, f.staticInitializer? = some e → motive e → motive (.read f))
    (unfollowed : ∀ f, f.staticInitializer? = none → motive (.read f))
    (arrayLiteral : ∀ es, motive (.arrayLiteral es))
    (newArray : ∀ t ds, motive (.newArray t ds))
    (newArrayOf : ∀ t ds es, motive (.newArrayOf t ds es))
    (opaqueText : ∀ s, motive (.opaqueText s)) :
  ∀ e, motive e
  := by
  intro e
  -- The motives at the parts of an expression that are no expressions themselves.
  induction e using Expr.rec
    (motive_2 := fun _ => True)
    (motive_3 := fun f => ∀ e, f.initializer = some e → motive e)
    (motive_4 := fun i => ∀ e, i = some e → motive e) with
  | literal c => exact literal c
  | unary op e he => exact unary op e he
  | binary op d e hd he => exact binary op d e hd he
  | arrayLiteral es => exact arrayLiteral es
  | newArray t ds => exact newArray t ds
  | newArrayOf t ds es => exact newArrayOf t ds es
  | opaqueText s => exact opaqueText s
  | read f hf =>
    cases h : f.staticInitializer? with
    | none => exact unfollowed f h
    | some e =>
      apply followed f e h
      apply hf e (Field.staticInitializer?_eq_some_iff.mp h).2
  | nil => trivial
  | cons => trivial
  | mk _ _ _ i hi e he => exact hi e he
  | none e he => contradiction
  | some e he e' h =>
    cases h
    exact he

/-! ### Calls -/

/-- A call of folding: an expression and the number of field reads followed to get to
it. -/
structure Call where
  depth : Nat
  expr : Expr

namespace Call

variable {limit : Nat} {a b : Call}

/-- The constant that a call returns. -/
def value? (limit : Nat) (a : Call) : Option Constant :=
  a.expr.fold (limit - a.depth)

/-- A call makes another on its behalf: an operator calls its operands, the right one only
if the left one returns a constant, and a read within the limit calls the initializer of
its static final field. -/
inductive Step (limit : Nat) : Call → Call → Prop where
  | operand {n op e} : Step limit ⟨n, .unary op e⟩ ⟨n, e⟩
  | left {n op d e} : Step limit ⟨n, .binary op d e⟩ ⟨n, d⟩
  | right {n op d e c} (hc : value? limit ⟨n, d⟩ = some c) :
      Step limit ⟨n, .binary op d e⟩ ⟨n, e⟩
  | initializer {n f e} (h : n < limit) (he : f.staticInitializer? = some e) :
      Step limit ⟨n, .read f⟩ ⟨n + 1, e⟩

/-- A call is made on behalf of another, directly or not. -/
def Reaches (limit : Nat) : Call → Call → Prop :=
  Relation.ReflTransGen (Step limit)

/-- A step from a call within the limit stays within the limit. -/
theorem Step.depth_le (h : Step limit a b) (ha : a.depth ≤ limit) :
  b.depth ≤ limit
  := by
  cases h with
  | operand => exact ha
  | left => exact ha
  | right => exact ha
  | initializer h => exact h

/-- All calls made on behalf of a call within the limit stay within the limit. -/
theorem Reaches.depth_le (h : Reaches limit a b) (ha : a.depth ≤ limit) :
  b.depth ≤ limit
  := by
  induction h with
  | refl => exact ha
  | tail _ hstep ih => exact hstep.depth_le ih

/-- A read at the limit returns nothing, and a read within it what the call of its
initializer returns. -/
theorem value?_read (limit n : Nat) (f : Field Expr) :
  value? limit ⟨n, .read f⟩
    = if limit ≤ n then none
      else f.staticInitializer?.bind fun e => value? limit ⟨n + 1, e⟩
  := by
  simp only [value?]
  split
  next h =>
    rw [Nat.sub_eq_zero_of_le h]
    apply fold_zero_read
  next h =>
    rw [show limit - n = limit - (n + 1) + 1 by omega]
    apply fold_succ_read

/-- A call returns nothing if a call it makes returns nothing. -/
theorem Step.value?_eq_none (h : Step limit a b) (hb : b.value? limit = none) :
  a.value? limit = none
  := by
  cases h with
  | operand =>
    rw [value?] at hb ⊢
    rw [fold, hb, Option.bind_none]
  | left =>
    rw [value?] at hb ⊢
    rw [fold, hb, Option.bind_none]
  | right hc =>
    rw [value?] at hb hc ⊢
    rw [fold, hc, Option.bind_some, hb, Option.bind_none]
  | initializer h he => rw [value?_read, if_neg (Nat.not_le_of_lt h), he, Option.bind_some, hb]

/-- A call returns nothing if a call made on its behalf returns nothing. -/
theorem Reaches.value?_eq_none (h : Reaches limit a b) (hb : b.value? limit = none) :
  a.value? limit = none
  := by
  induction h using Relation.ReflTransGen.head_induction_on with
  | refl => exact hb
  | head hstep _ ih => exact hstep.value?_eq_none ih

end Call

end VirtualFields.Expr
