import VirtualFields.Proofs.Derivation.Interning
import VirtualFields.Proofs.Derivation.Trust

/-!
# The order of precision

The value of a virtual field is known if its qualifier alone determines it: a box, a
variable with a trusted initializer, a tag for this very field, or a literal string
(`VirtualField.Known`).  If it is not known, the read of the field on a variable is a
variable of the table, and the value on any other qualifier is the default value
(`VirtualField.Yields`).  These rules determine the value and the table after it
(`VirtualField.create_iff_yields`); in particular only the read of a field on a variable
may add a variable to the table, and the target type shows in the type of this variable
alone.
-/

namespace VirtualFields

namespace VariableTable

/-! ### Asking a table for a variable -/

/-- A table that is asked for a key answers with its variable for the key, or adds this
variable at its end if there is none. -/
inductive Interns (t : VariableTable) (k : Key) : Variable Ref → VariableTable → Prop where
  | found {v : Variable Ref} (hmem : v ∈ t.entries) (hpath : v.path = k.path) : Interns t k v t
  | added {t' : VariableTable} (hnew : k.path ∉ t.paths) (hlabel : t'.label = t.label)
      (hentries : t'.entries
        = t.entries ++ [⟨⟨t.label, t.size⟩, k.descriptor, k.qualifier, k.type⟩]) :
      Interns t k ⟨⟨t.label, t.size⟩, k.descriptor, k.qualifier, k.type⟩ t'

/-- A table is determined by its label and its variables. -/
theorem eq_of_entries_eq {t t' : VariableTable} (hlabel : t.label = t'.label)
    (hentries : t.entries = t'.entries) :
  t = t'
  := by
  cases t
  cases t'
  cases hlabel
  cases hentries
  rfl

theorem find?_eq_none_iff {t : VariableTable} {p : Path} :
  t.find? p = none ↔ p ∉ t.paths
  := by
  simp [find?, paths]

theorem interns_lookUp (t : VariableTable) (k : Key) :
  t.Interns k (t.lookUp k).answer (t.lookUp k).table
  := by
  rw [lookUp, request]
  split
  next v hv =>
    obtain ⟨hmem, hpath⟩ := find?_spec hv
    exact .found hmem hpath
  next hnone =>
    exact .added (find?_eq_none_iff.mp hnone) rfl rfl

/-- The variable for a key and the table after it are determined by the key. -/
theorem Interns.unique {t t' t'' : VariableTable} {k : Key} {v w : Variable Ref}
    (h : t.Interns k v t') (h' : t.Interns k w t'') :
  v = w ∧ t' = t''
  := by
  cases h with
  | found hmem hpath =>
    cases h' with
    | found hmem' hpath' =>
      use List.inj_on_of_nodup_map t.nodup hmem hmem' (hpath.trans hpath'.symm)
    | added hnew => exact absurd (List.mem_map.mpr ⟨v, hmem, hpath⟩) hnew
  | added hnew hlabel hentries =>
    cases h' with
    | found hmem hpath => exact absurd (List.mem_map.mpr ⟨w, hmem, hpath⟩) hnew
    | added _ hlabel' hentries' =>
      use rfl
      apply eq_of_entries_eq
      · exact hlabel.trans hlabel'.symm
      · exact hentries.trans hentries'.symm

end VariableTable

namespace VirtualField

/-! ### Known values -/

/-- The value of a virtual field is known on a qualifier. -/
inductive Known (env : Collaborators) : VirtualField → Value Ref → Value Ref → Prop where
  /-- The primitive in a box. -/
  | unboxed {inner : Value Ref} : Known env unbox (.boxed inner) inner
  /-- What the initializer of a trusted static final field gives. -/
  | folded {f : VirtualField} {v : Variable Ref} {d : Field Expr} {e : Expr} {c : Constant}
      (hfield : v.field? = some d) (htrust : env.trusts d)
      (hstatic : d.modifiers.isStaticFinal) (hinit : d.initializer = some e)
      (hvalue : f.ofInitializerBy? env.evaluate? e = some c) :
      Known env f (.var v) (.constant c)
  /-- The value of a tag for the field. -/
  | tagged {f : VirtualField} {s : Facts (Value Ref)} {value : Value Ref}
      (htag : s.tag = some ⟨f, value⟩) :
      Known env f (.facts s) value
  /-- The length of a literal string. -/
  | literal {s : String} (hlength : Text.unitLength s < 0x80000000) :
      Known env stringLength (.constant (.str s))
        (.constant (.int (.ofNat (Text.unitLength s))))

variable {f : VirtualField} {env : Collaborators} {t : VariableTable} {target : Option Ty}
  {q : Option (Value Ref)} {v : Variable Ref} {x : Value Ref}

theorem extract?_eq_some_iff {α : Type} {tag : Option (Tag α)} {value : α} :
  f.extract? tag = some value ↔ tag = some ⟨f, value⟩
  := by
  simp only [extract?, Option.map_eq_some_iff, Option.filter_eq_some_iff, decide_eq_true_iff]
  constructor
  · rintro ⟨⟨_, _⟩, ⟨htag, rfl⟩, rfl⟩
    exact htag
  · intro htag
    use ⟨f, value⟩

theorem ofConstant?_eq_some_iff {c d : Constant} :
  f.ofConstant? c = some d ↔ f = stringLength ∧ ∃ s, c = .str s
    ∧ Text.unitLength s < 0x80000000 ∧ d = .int (.ofNat (Text.unitLength s))
  := by
  constructor
  · intro h
    cases f with
    | stringLength =>
      cases c with
      | str s =>
        obtain ⟨hlength, hd⟩ := Option.ite_none_right_eq_some.mp h
        use rfl, s, rfl, hlength, (Option.some.inj hd).symm
      | _ => contradiction
    | _ => contradiction
  · rintro ⟨rfl, s, rfl, hlength, rfl⟩
    exact if_pos hlength

theorem known_var_iff :
  f.Known env (.var v) x ↔ (f.ofTrusted? env v).map .constant = some x
  := by
  rw [Option.map_eq_some_iff]
  constructor
  · intro h
    cases h with
    | @folded _ _ d e c hfield htrust hstatic hinit hvalue =>
      use c
      constructor
      · rw [ofTrusted?_eq_some_iff]
        use d, e, hfield, htrust, Field.staticInitializer?_eq_some_iff.mpr ⟨hstatic, hinit⟩
      · rfl
  · rintro ⟨c, hc, rfl⟩
    obtain ⟨d, e, hfield, htrust, hstatic, hvalue⟩ := (ofTrusted?_eq_some_iff f env v c).mp hc
    obtain ⟨hstatic, hinit⟩ := Field.staticInitializer?_eq_some_iff.mp hstatic
    exact .folded hfield htrust hstatic hinit hvalue

theorem known_facts_iff {s : Facts (Value Ref)} :
  f.Known env (.facts s) x ↔ f.extract? s.tag = some x
  := by
  rw [extract?_eq_some_iff]
  constructor
  · intro h
    cases h with
    | tagged htag => exact htag
  · exact .tagged

theorem known_constant_iff {c : Constant} :
  f.Known env (.constant c) x ↔ (f.ofConstant? c).map .constant = some x
  := by
  rw [Option.map_eq_some_iff]
  constructor
  · intro h
    cases h with
    | @literal s hlength =>
      use .int (.ofNat (Text.unitLength s))
      exact ⟨if_pos hlength, rfl⟩
  · rintro ⟨d, hd, rfl⟩
    obtain ⟨rfl, s, rfl, hlength, rfl⟩ := ofConstant?_eq_some_iff.mp hd
    exact .literal hlength

theorem known_boxed_iff {inner : Value Ref} :
  f.Known env (.boxed inner) x ↔ f = unbox ∧ x = inner
  := by
  constructor
  · intro h
    cases h with
    | unboxed => exact ⟨rfl, rfl⟩
  · rintro ⟨rfl, rfl⟩
    exact .unboxed

theorem not_known_unknown :
  ¬ f.Known env .unknown x
  := nofun

/-- A qualifier determines at most one value of a virtual field. -/
theorem Known.unique {q x y : Value Ref} (hx : f.Known env q x) (hy : f.Known env q y) :
  x = y
  := by
  cases q with
  | constant c =>
    rw [known_constant_iff] at hx hy
    exact Option.some.inj (hx.symm.trans hy)
  | var v =>
    rw [known_var_iff] at hx hy
    exact Option.some.inj (hx.symm.trans hy)
  | facts s =>
    rw [known_facts_iff] at hx hy
    exact Option.some.inj (hx.symm.trans hy)
  | boxed inner => rw [(known_boxed_iff.mp hx).2, (known_boxed_iff.mp hy).2]
  | unknown => exact absurd hx not_known_unknown

/-! ### The rules -/

/-- The value of a virtual field on a qualifier, which may be missing, and the table after
it. -/
inductive Yields (env : Collaborators) (t : VariableTable) (target : Option Ty)
    (f : VirtualField) : Option (Value Ref) → Value Ref → VariableTable → Prop where
  | known {q x : Value Ref} (h : f.Known env q x) : Yields env t target f (some q) x t
  /-- The read of the field on a variable has the target type if there is one, and the type
  of the field otherwise. -/
  | access {v w : Variable Ref} {t' : VariableTable} (hnone : ∀ x, ¬ f.Known env (.var v) x)
      (hw : t.Interns ⟨.field f, some v, target <|> f.typeOn? v.type env.types⟩ w t') :
      Yields env t target f (some (.var v)) (.var w) t'
  | default {q : Value Ref} (hnone : ∀ x, ¬ f.Known env q x) (hvar : ∀ v, q ≠ .var v) :
      Yields env t target f (some q) f.defaultValue t
  | missing : Yields env t target f none f.defaultValue t

/-- The rules give one value and one table. -/
theorem Yields.unique {y : Value Ref} {t' t'' : VariableTable}
    (h : f.Yields env t target q x t') (h' : f.Yields env t target q y t'') :
  x = y ∧ t' = t''
  := by
  cases h with
  | known hx =>
    cases h' with
    | known hy => exact ⟨hx.unique hy, rfl⟩
    | access hnone => exact absurd hx (hnone x)
    | default hnone => exact absurd hx (hnone x)
  | access hnone hw =>
    cases h' with
    | known hy => exact absurd hy (hnone y)
    | access _ hw' =>
      obtain ⟨rfl, rfl⟩ := hw.unique hw'
      exact ⟨rfl, rfl⟩
    | default _ hvar => exact absurd rfl (hvar _)
  | default hnone hvar =>
    cases h' with
    | known hy => exact absurd hy (hnone y)
    | access => exact absurd rfl (hvar _)
    | default => exact ⟨rfl, rfl⟩
  | missing =>
    cases h' with
    | missing => exact ⟨rfl, rfl⟩

/-! ### The derivation on each kind of qualifier -/

theorem derive_none :
  f.derive env (none : Option (Value Ref)) target = .default
  := by
  cases f with
  | _ => rfl

theorem derive_constant (c : Constant) :
  f.derive env (some (.constant c : Value Ref)) target
    = match f.ofConstant? c with
      | some d => .literal d
      | none => .default
  := by
  cases f with
  | _ => rfl

theorem derive_facts (s : Facts (Value Ref)) :
  f.derive env (some (.facts s)) target
    = match f.extract? s.tag with
      | some x => .tagged x
      | none => .default
  := by
  cases h : f.extract? s.tag with
  | none => cases f <;> simp only [derive, h]
  | some x => cases f <;> simp only [derive, h]

theorem derive_boxed (hf : f ≠ unbox) (inner : Value Ref) :
  f.derive env (some (.boxed inner)) target = .default
  := by
  cases f with
  | unbox => contradiction
  | _ => rfl

theorem derive_unknown :
  f.derive env (some (.unknown : Value Ref)) target = .default
  := by
  cases f with
  | _ => rfl

/-- The value that is created and the table after it are those that the rules give. -/
theorem create_yields (f : VirtualField) (env : Collaborators) (t : VariableTable)
    (q : Option (Value Ref)) (target : Option Ty) :
  f.Yields env t target q (f.create env t q target).answer (f.create env t q target).table
  := by
  -- The rule depends on the kind of qualifier, and within a kind on whether it has a value.
  rcases q with _ | (c | v | s | inner | _)
  · rw [create, derive_none]
    exact .missing
  · rw [create, derive_constant]
    cases hc : f.ofConstant? c with
    | some d =>
      apply Yields.known
      rw [known_constant_iff, hc]
      rfl
    | none =>
      apply Yields.default
      · intro x hx
        rw [known_constant_iff, hc] at hx
        contradiction
      · simp
  · rw [create, derive_var]
    cases hc : f.ofTrusted? env v with
    | some c =>
      apply Yields.known
      rw [known_var_iff, hc]
      rfl
    | none =>
      apply Yields.access
      · intro x hx
        rw [known_var_iff, hc] at hx
        contradiction
      · apply VariableTable.interns_lookUp
  · rw [create, derive_facts]
    cases hs : f.extract? s.tag with
    | some x => exact .known (known_facts_iff.mpr hs)
    | none =>
      apply Yields.default
      · intro x hx
        rw [known_facts_iff, hs] at hx
        contradiction
      · simp
  · by_cases hf : f = unbox
    · subst hf
      exact .known .unboxed
    · rw [create, derive_boxed hf]
      apply Yields.default
      · intro x hx
        exact hf (known_boxed_iff.mp hx).1
      · simp
  · rw [create, derive_unknown]
    apply Yields.default
    · intro x
      apply not_known_unknown
    · simp

/-! ### The target type -/

/-- The collaborators and the target type are read for qualifiers that are variables alone. -/
theorem derive_congr_of_ne_var (f : VirtualField) {q : Option (Value Ref)}
    (hq : ∀ v, q ≠ some (.var v)) (env env' : Collaborators) (target target' : Option Ty) :
  f.derive env q target = f.derive env' q target'
  := by
  rcases q with _ | (c | v | s | inner | _)
  case some.var => exact absurd rfl (hq v)
  all_goals
    cases f with
    | _ => rfl

/-- The target type is read for qualifiers that are variables alone. -/
theorem derive_eq_of_ne_var (f : VirtualField) (env : Collaborators) {q : Option (Value Ref)}
    (hq : ∀ v, q ≠ some (.var v)) (target target' : Option Ty) :
  f.derive env q target = f.derive env q target'
  := f.derive_congr_of_ne_var hq env env target target'

/-- The value of a virtual field on a qualifier and the table after it are determined by the
order of precision: the known value if there is one, else the read of the field if the
qualifier is a variable, else the default value.  The target type has no influence, or it is
the type of the variable that reads the field. -/
theorem create_iff_yields (f : VirtualField) (env : Collaborators) (t : VariableTable)
    (q : Option (Value Ref)) :
  (∀ target x t', f.Yields env t target q x t'
      ↔ (f.create env t q target).answer = x ∧ (f.create env t q target).table = t')
    ∧ ((∀ target target', f.create env t q target = f.create env t q target')
      ∨ ∃ v, q = some (.var v) ∧ ∀ target, ∃ w,
        (f.create env t q target).answer = .var w ∧ w.descriptor = .field f
          ∧ w.qualifier.map Variable.path = some v.path
          ∧ w.type = (target <|> f.typeOn? v.type env.types))
  := by
  constructor
  · intro target x t'
    have hcreate := create_yields f env t q target
    constructor
    · exact hcreate.unique
    · rintro ⟨rfl, rfl⟩
      exact hcreate
  -- Only the key of a read on a variable without a known value holds the target type.
  · by_cases hq : ∃ v, q = some (.var v)
    · obtain ⟨v, rfl⟩ := hq
      cases hc : f.ofTrusted? env v with
      | some c =>
        left
        intro target target'
        rw [create, create, derive_var, derive_var, hc]
      | none =>
        right
        use v, rfl
        intro target
        obtain ⟨-, hpath, -⟩ :=
          t.lookUp_spec ⟨.field f, some v, target <|> f.typeOn? v.type env.types⟩
        refine ⟨_, ?_, Key.path_eq_iff.mp hpath⟩
        rw [create, derive_var, hc]
        rfl
    · left
      intro target target'
      rw [create, create, derive_eq_of_ne_var f env (not_exists.mp hq) target target']

end VirtualField

end VirtualFields
