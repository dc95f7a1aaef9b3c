import VirtualFields.Proofs.Expr.Calls

/-!
# The depth of nested reads

`Expr.readDepth` is the deepest nesting of field reads that folding an expression meets,
and `Expr.inline` replaces the reads of static final fields by their initializers.  An
expression folds to the constant of the inlined expression if the nesting is within the
limit, and to nothing if not (`fold_eq_inline`).  Counting the reads in a 32-bit word
cannot overflow, since the count never exceeds the limit (`countedFold_eq_value?`).
-/

namespace VirtualFields.Expr

/-- The deepest nesting of field reads that folding an expression meets. -/
def readDepth : Expr → Nat
  | .unary _ e => e.readDepth
  | .binary _ d e => max d.readDepth e.readDepth
  | .read ⟨decl, _, _, some e⟩ => if decl.modifiers.isStaticFinal then e.readDepth + 1 else 1
  | .read ⟨_, _, _, none⟩ => 1
  | .literal _ | .arrayLiteral _ | .newArray .. | .newArrayOf .. | .opaqueText _ => 0

mutual

/-- The expression with every read of a static final field replaced by its inlined
initializer, and every other read by an opaque expression. -/
def inline : Expr → Expr
  | .literal c => .literal c
  | .arrayLiteral es => .arrayLiteral (inlineList es)
  | .newArray t ds => .newArray t (inlineList ds)
  | .newArrayOf t ds es => .newArrayOf t (inlineList ds) (inlineList es)
  | .unary op e => .unary op e.inline
  | .binary op d e => .binary op d.inline e.inline
  | .read ⟨decl, _, _, some e⟩ =>
    if decl.modifiers.isStaticFinal then e.inline else .opaqueText decl.name
  | .read ⟨decl, _, _, none⟩ => .opaqueText decl.name
  | .opaqueText s => .opaqueText s

/-- The inlined expressions of a list. -/
def inlineList : List Expr → List Expr
  | [] => []
  | e :: es => e.inline :: inlineList es

end

@[simp]
theorem readDepth_read (f : Field Expr) :
  (read f).readDepth = (f.staticInitializer?.map readDepth).getD 0 + 1
  := by
  obtain ⟨decl, _, _, _ | e⟩ := f
  · simp [readDepth, Field.staticInitializer?]
  · cases h : decl.modifiers.isStaticFinal with
    | true => simp [readDepth, Field.staticInitializer?, h]
    | false => simp [readDepth, Field.staticInitializer?, h]

@[simp]
theorem inline_read (f : Field Expr) :
  (read f).inline = (f.staticInitializer?.map inline).getD (.opaqueText f.name)
  := by
  obtain ⟨decl, _, _, _ | e⟩ := f
  · simp [inline, Field.staticInitializer?]
  · cases h : decl.modifiers.isStaticFinal with
    | true => simp [inline, Field.staticInitializer?, h]
    | false => simp [inline, Field.staticInitializer?, h]

/-- Within the limit an expression folds to what the inlined expression folds to, and
beyond the limit to nothing. -/
theorem fold_eq_inline (depth depth' : Nat) (e : Expr) :
  e.fold depth = if e.readDepth ≤ depth then e.inline.fold depth' else none
  := by
  induction e using foldInduction generalizing depth with
  | literal c => simp [fold, inline, readDepth]
  | unary op e ih =>
    rw [fold, inline, fold, readDepth, ih depth]
    split
    · rfl
    · rfl
  | binary op d e ihd ihe =>
    rw [fold, inline, fold, readDepth, ihd depth, ihe depth]
    by_cases hd : d.readDepth ≤ depth
    · by_cases he : e.readDepth ≤ depth
      · rw [if_pos hd, if_pos he, if_pos (Nat.max_le.mpr ⟨hd, he⟩)]
      · rw [if_neg he, if_neg (fun h => he (Nat.max_le.mp h).2)]
        simp
    · rw [if_neg hd, if_neg (fun h => hd (Nat.max_le.mp h).1)]
      rfl
  | followed f e he ih =>
    cases depth with
    | zero => simp
    | succ depth => simp [he, ih depth]
  | unfollowed f hf =>
    cases depth with
    | zero => simp
    | succ depth => simp [hf, fold]
  | arrayLiteral => simp [fold, inline]
  | newArray => simp [fold, inline]
  | newArrayOf => simp [fold, inline]
  | opaqueText => simp [fold, inline]

/-- A constant found within a limit is found within every larger limit. -/
theorem fold_mono {depth depth' : Nat} (h : depth ≤ depth') {e : Expr} {c : Constant}
    (hc : e.fold depth = some c) :
  e.fold depth' = some c
  := by
  rw [fold_eq_inline depth 0] at hc
  rw [fold_eq_inline depth' 0]
  split at hc
  next hdepth => rw [if_pos (Nat.le_trans hdepth h), hc]
  next => contradiction

/-! ### Counting reads in a word -/

/-- Folding that counts the reads followed so far in a 32-bit word, and follows no read once
the count has come to the limit. -/
def countedFold (limit depth : UInt32) : Expr → Option Constant
  | .literal c => some c
  | .unary op e => (e.countedFold limit depth).bind op.eval?
  | .binary op d e =>
    (d.countedFold limit depth).bind fun a =>
      (e.countedFold limit depth).bind fun b => op.eval? a b
  | .read ⟨decl, _, _, some e⟩ =>
    if limit ≤ depth ∨ ¬ decl.modifiers.isStaticFinal then none
    else e.countedFold limit (depth + 1)
  | .read ⟨_, _, _, none⟩ => none
  | .arrayLiteral _ | .newArray .. | .newArrayOf .. | .opaqueText _ => none

theorem countedFold_read (limit depth : UInt32) (f : Field Expr) :
  (read f).countedFold limit depth
    = if limit ≤ depth then none
      else f.staticInitializer?.bind (countedFold limit (depth + 1))
  := by
  obtain ⟨decl, _, _, _ | e⟩ := f
  · simp [countedFold, Field.staticInitializer?]
  · cases h : decl.modifiers.isStaticFinal with
    | true => simp [countedFold, Field.staticInitializer?, h]
    | false => simp [countedFold, Field.staticInitializer?, h]

/-- A count below a limit can be increased in its word. -/
theorem toNat_succ_of_lt {limit depth : UInt32} (h : depth < limit) :
  (depth + 1).toNat = depth.toNat + 1
  := by
  have hlimit := limit.toNat_lt
  rw [UInt32.lt_iff_toNat_lt] at h
  rw [UInt32.toNat_add, UInt32.toNat_one]
  omega

/-- Counting in a word, a call returns the constant it returns in unbounded counting. -/
theorem countedFold_eq_value? {limit depth : UInt32} (h : depth ≤ limit) (e : Expr) :
  e.countedFold limit depth = Call.value? limit.toNat ⟨depth.toNat, e⟩
  := by
  induction e using foldInduction generalizing depth with
  | literal c => rfl
  | unary op e ih =>
    rw [countedFold, ih h]
    rfl
  | binary op d e ihd ihe =>
    rw [countedFold, ihd h, ihe h]
    rfl
  | followed f e he ih =>
    rw [countedFold_read, Call.value?_read, he]
    simp only [UInt32.le_iff_toNat_le]
    split
    next => rfl
    next hlimit =>
      have hlt : depth < limit := UInt32.lt_iff_toNat_lt.mpr (Nat.lt_of_not_le hlimit)
      have hsucc : depth + 1 ≤ limit := by
        rw [UInt32.le_iff_toNat_le, toNat_succ_of_lt hlt]
        exact UInt32.lt_iff_toNat_lt.mp hlt
      rw [Option.bind_some, Option.bind_some, ih hsucc, toNat_succ_of_lt hlt]
  | unfollowed f hf => simp [countedFold_read, Call.value?_read, hf]
  | arrayLiteral => rfl
  | newArray => rfl
  | newArrayOf => rfl
  | opaqueText => rfl

/-- The limit on nested reads is exact and otherwise invisible: within it an expression
folds to what the inlined expression folds to under any limit, and beyond it to nothing.
Hence a constant stays the same when the limit grows; no count exceeds the limit, and
counting in a 32-bit word does not overflow. -/
theorem fold_limit_exact (limit : UInt32) (e : Expr) :
  (∀ limit' : UInt32, e.fold limit.toNat
      = if e.readDepth ≤ limit.toNat then e.inline.fold limit'.toNat else none)
    ∧ (∀ (limit' : UInt32) (c : Constant), limit ≤ limit' →
        e.fold limit.toNat = some c → e.fold limit'.toNat = some c)
    ∧ (∀ a, Call.Reaches limit.toNat ⟨0, e⟩ a →
        a.depth ≤ limit.toNat ∧ ∀ b, a.Step limit.toNat b → b.depth < UInt32.size)
    ∧ e.countedFold limit 0 = e.fold limit.toNat
  := by
  and_intros
  · intro limit'
    apply fold_eq_inline
  · intro limit' c h hc
    exact fold_mono (UInt32.le_iff_toNat_le.mp h) hc
  · intro a ha
    have hdepth := ha.depth_le (Nat.zero_le limit.toNat)
    use hdepth
    intro b hb
    exact Nat.lt_of_le_of_lt (hb.depth_le hdepth) limit.toNat_lt
  · exact countedFold_eq_value? UInt32.zero_le e

/-- A constant behind two reads is found with the limit 2 and all larger limits, but not
with the limit 1. -/
theorem fold_limit_exact_two_reads :
  let inner : Field Expr :=
    { name := "F0", owner := .named "com.example.Chain", type := .int,
      modifiers := .ofList [.static, .final], initializer := some (.literal (.int 42)) }
  let outer : Field Expr := { inner with name := "F1", initializer := some (.read inner) }
  (read outer).readDepth = 2
    ∧ (read outer).fold 1 = none
    ∧ (read outer).fold 2 = some (.int 42)
    ∧ (read outer).fold 4294967295 = some (.int 42)
    ∧ (read outer).countedFold 2 0 = some (.int 42)
  := by
  intro inner outer
  have hfold : (read outer).fold 2 = some (.int 42) := by
    apply ((fold_limit_exact 2 (read outer)).1 0).trans
    decide +kernel
  and_intros
  · decide +kernel
  · apply ((fold_limit_exact 1 (read outer)).1 0).trans
    decide +kernel
  · exact hfold
  · exact (fold_limit_exact 2 (read outer)).2.1 4294967295 _ (by decide) hfold
  · exact (fold_limit_exact 2 (read outer)).2.2.2.trans hfold

end VirtualFields.Expr
