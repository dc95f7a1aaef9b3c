import VirtualFields.Proofs.Derivation.Precision

/-!
# Alike values

Two values are alike if they differ in their variables alone, and these correspond by a
given relation (`Value.Alike`).  The derivation reads of a variable only what its path tells.
So it finds the same sources on alike qualifiers (`VirtualField.derive_alike`), and alike
requests ask their tables for variables with the same path and have alike answers
(`Request.Alike.answer_alike`).
-/

namespace VirtualFields

/-! ### Optional values -/

section

variable {α β γ δ : Type} {r : α → β → Prop} {a : Option α} {b : Option β}

/-- Related optional values are both missing or both there. -/
theorem rel_cases (h : a.Rel r b) :
  (a = none ∧ b = none) ∨ ∃ x y, a = some x ∧ b = some y ∧ r x y
  := by
  cases h with
  | none => exact .inl ⟨rfl, rfl⟩
  | some h => exact .inr ⟨_, _, rfl, rfl, h⟩

theorem rel_map {p : γ → δ → Prop} {f : α → γ} {g : β → δ} (h : a.Rel r b)
    (hfg : ∀ x y, r x y → p (f x) (g y)) :
  (a.map f).Rel p (b.map g)
  := by
  cases h with
  | none => exact .none
  | some h => exact .some (hfg _ _ h)

end

variable {R : Variable Ref → Variable Ref → Prop}

/-! ### Values -/

namespace Value

/-- Two values are alike if they differ in variables alone, which are related. -/
inductive Alike (R : Variable Ref → Variable Ref → Prop) : Value Ref → Value Ref → Prop where
  | constant (c : Constant) : Alike R (.constant c) (.constant c)
  | var {v w : Variable Ref} (h : R v w) : Alike R (.var v) (.var w)
  | untagged (i : Option Interval) (n : Option Nullability) :
      Alike R (.facts ⟨i, n, none⟩) (.facts ⟨i, n, none⟩)
  | tagged (i : Option Interval) (n : Option Nullability) (f : VirtualField) {x y : Value Ref}
      (h : Alike R x y) : Alike R (.facts ⟨i, n, some ⟨f, x⟩⟩) (.facts ⟨i, n, some ⟨f, y⟩⟩)
  | boxed {x y : Value Ref} (h : Alike R x y) : Alike R (.boxed x) (.boxed y)
  | unknown : Alike R .unknown .unknown

/-- The variables that a value is or holds in boxes and tags. -/
def held {ι : Type} : Value ι → List (Variable ι)
  | constant _ | facts ⟨_, _, none⟩ | unknown => []
  | var v => [v]
  | facts ⟨_, _, some ⟨_, x⟩⟩ | boxed x => x.held

/-- A value is like itself if the variables it holds are related to themselves. -/
theorem alike_self : (x : Value Ref) → (∀ v ∈ x.held, R v v) →
  Alike R x x
  | constant c, _ => .constant c
  | var v, h => .var (h v (List.mem_singleton_self v))
  | facts ⟨i, n, none⟩, _ => .untagged i n
  | facts ⟨i, n, some ⟨f, x⟩⟩, h => .tagged i n f (x.alike_self h)
  | boxed x, h => .boxed (x.alike_self h)
  | unknown, _ => .unknown

/-- Two qualifiers are alike if they are alike values or variables with the same path. -/
inductive AlikeQualifiers (R : Variable Ref → Variable Ref → Prop) :
    Value Ref → Value Ref → Prop where
  | alike {x y : Value Ref} (h : Alike R x y) : AlikeQualifiers R x y
  | samePath {v w : Variable Ref} (h : v.path = w.path) : AlikeQualifiers R (.var v) (.var w)

end Value

/-! ### Derivations -/

/-- Variables with the same path stand for the same and have the same type. -/
theorem Variable.descriptor_eq_of_path_eq {v w : Variable Ref} (h : v.path = w.path) :
  v.descriptor = w.descriptor ∧ v.type = w.type
  := by
  obtain ⟨r, d, q, t⟩ := v
  obtain ⟨r', d', q', t'⟩ := w
  rw [VariableTable.path_mk, VariableTable.path_mk] at h
  obtain ⟨-, hd, -, ht⟩ := Variable.mk.inj h
  exact ⟨hd, ht⟩

/-- Two derivations have alike sources. -/
inductive Derivation.Alike (R : Variable Ref → Variable Ref → Prop) :
    Derivation Ref → Derivation Ref → Prop where
  | unboxed {x y : Value Ref} (h : x.Alike R y) : Alike R (.unboxed x) (.unboxed y)
  | folded (v w : Variable Ref) (c : Constant) : Alike R (.folded v c) (.folded w c)
  | access {v w : Variable Ref} (h : v.path = w.path) (type : Option Ty) :
      Alike R (.access v type) (.access w type)
  | tagged {x y : Value Ref} (h : x.Alike R y) : Alike R (.tagged x) (.tagged y)
  | literal (c : Constant) : Alike R (.literal c) (.literal c)
  | default : Alike R .default .default

namespace VirtualField

variable {f : VirtualField} {env : Collaborators} {target : Option Ty}

/-- The derivation on variables with the same path has alike sources. -/
theorem derive_var_alike {v w : Variable Ref} (h : v.path = w.path) :
  (f.derive env (some (.var v)) target).Alike R (f.derive env (some (.var w)) target)
  := by
  obtain ⟨hd, ht⟩ := Variable.descriptor_eq_of_path_eq h
  have hfield : v.field? = w.field? := by rw [Variable.field?, Variable.field?, hd]
  have htrusted : f.ofTrusted? env v = f.ofTrusted? env w := by
    rw [ofTrusted?, ofTrusted?, hfield]
  rw [derive_var, derive_var, htrusted, ht]
  cases f.ofTrusted? env w with
  | some c => exact .folded v w c
  | none => exact .access h _

/-- The derivation on alike values has alike sources. -/
theorem derive_value_alike (hpath : ∀ v w, R v w → v.path = w.path) {x y : Value Ref}
    (h : x.Alike R y) :
  (f.derive env (some x) target).Alike R (f.derive env (some y) target)
  := by
  cases h with
  | constant c =>
    rw [derive_constant]
    cases f.ofConstant? c with
    | some d => exact .literal d
    | none => exact .default
  | var h => exact derive_var_alike (hpath _ _ h)
  | untagged i n =>
    rw [derive_facts]
    exact .default
  | @tagged i n g x y h =>
    rw [derive_facts, derive_facts]
    by_cases hg : g = f
    · subst hg
      rw [extract?_eq_some_iff.mpr rfl, extract?_eq_some_iff.mpr rfl]
      exact .tagged h
    · have hnone : ∀ x : Value Ref, f.extract? (some ⟨g, x⟩) = none := by
        intro x
        simp [extract?, hg]
      rw [hnone, hnone]
      exact .default
  | boxed h =>
    by_cases hf : f = unbox
    · subst hf
      exact .unboxed h
    · rw [derive_boxed hf, derive_boxed hf]
      exact .default
  | unknown =>
    rw [derive_unknown]
    exact .default

/-- The derivation on alike qualifiers has alike sources. -/
theorem derive_alike (hpath : ∀ v w, R v w → v.path = w.path) {q q' : Option (Value Ref)}
    (h : q.Rel (Value.AlikeQualifiers R) q') :
  (f.derive env q target).Alike R (f.derive env q' target)
  := by
  cases h with
  | none =>
    rw [derive_none]
    exact .default
  | some h =>
    cases h with
    | alike h => exact derive_value_alike hpath h
    | samePath h => exact derive_var_alike h

end VirtualField

/-- Default values hold no variables. -/
theorem VirtualField.held_defaultValue {ι : Type} (f : VirtualField) :
  (f.defaultValue : Value ι).held = []
  := by
  cases f with
  | _ => rfl

/-- Alike sources without a key give alike values. -/
theorem Derivation.Alike.answer_alike {d d' : Derivation Ref} (h : d.Alike R d')
    {f : VirtualField} (hkey : d.key? f = none) (t t' : VariableTable) :
  (d.create f t).answer.Alike R (d'.create f t').answer
  := by
  cases h with
  | unboxed h => exact h
  | folded v w c => exact .constant c
  | access => contradiction
  | tagged h => exact h
  | literal c => exact .constant c
  | default =>
    apply Value.alike_self
    intro v hv
    rw [Derivation.create, f.held_defaultValue] at hv
    contradiction

/-- Alike sources have keys with the same path, or none. -/
theorem Derivation.Alike.key?_rel {d d' : Derivation Ref} (h : d.Alike R d')
    (f : VirtualField) :
  (d.key? f).Rel (fun k k' => k.path = k'.path) (d'.key? f)
  := by
  cases h with
  | access h type =>
    apply Option.Rel.some
    rw [Key.path, Key.path, VariableTable.requestPath, VariableTable.requestPath,
      Option.map_some, Option.map_some, h]
  | _ => exact .none

/-! ### Requests -/

namespace Request

/-- Two requests are alike if they are the same but for their qualifiers, which are alike. -/
inductive Alike (R : Variable Ref → Variable Ref → Prop) : Request → Request → Prop where
  | ask (d : Descriptor) {q q' : Option (Variable Ref)} (type : Option Ty)
      (h : q.map Variable.path = q'.map Variable.path) :
      Alike R (.ask ⟨d, q, type⟩) (.ask ⟨d, q', type⟩)
  | access (f : VirtualField) {v w : Variable Ref} (type : Option Ty) (h : v.path = w.path) :
      Alike R (.access f v type) (.access f w type)
  | create (f : VirtualField) {q q' : Option (Value Ref)} (target : Option Ty)
      (h : q.Rel (Value.AlikeQualifiers R) q') : Alike R (.create f q target) (.create f q' target)

variable {env : Collaborators} {r r' : Request} {t t' : VariableTable}

/-- Alike requests have keys with the same path, or none. -/
theorem Alike.key?_rel (hpath : ∀ v w, R v w → v.path = w.path) (h : r.Alike R r') :
  (r.key? env).Rel (fun k k' => k.path = k'.path) (r'.key? env)
  := by
  cases h with
  | ask d type h =>
    apply Option.Rel.some
    rw [Key.path, Key.path, VariableTable.requestPath, VariableTable.requestPath, h]
  | access f type h =>
    apply Option.Rel.some
    rw [Key.path, Key.path, VariableTable.requestPath, VariableTable.requestPath,
      Option.map_some, Option.map_some, h]
  | create f target h => exact (VirtualField.derive_alike hpath h).key?_rel f

/-- Alike requests have alike answers if the variables that their tables hold are related
whenever they have the same path. -/
theorem Alike.answer_alike (hpath : ∀ v w, R v w → v.path = w.path)
    (htables : ∀ v ∈ t.entries, ∀ w ∈ t'.entries, v.path = w.path → R v w)
    (h : r.Alike R r') (ht : (r.run env t).table = t) (ht' : (r'.run env t').table = t') :
  (r.run env t).answer.Alike R (r'.run env t').answer
  := by
  have hkeys : (r.key? env).Rel _ (r'.key? env) := h.key?_rel hpath
  rcases rel_cases hkeys with ⟨hk, -⟩ | ⟨k, k', hk, hk', hkeys⟩
  · cases h with
    | ask => contradiction
    | access => contradiction
    | create f target h => exact (VirtualField.derive_alike hpath h).answer_alike hk t t'
  · rw [run_of_key hk, Reply.asValue] at ht ⊢
    rw [run_of_key hk', Reply.asValue] at ht' ⊢
    obtain ⟨hmem, hpath, -⟩ := t.lookUp_spec k
    obtain ⟨hmem', hpath', -⟩ := t'.lookUp_spec k'
    rw [ht] at hmem
    rw [ht'] at hmem'
    exact .var (htables _ hmem _ hmem' (by rw [hpath, hpath', hkeys]))

end Request

end VirtualFields
