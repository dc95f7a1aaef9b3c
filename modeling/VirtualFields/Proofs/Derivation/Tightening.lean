import VirtualFields.Proofs.Derivation.Precision

/-!
# Tighter configurations

A configuration tightens another when it trusts initializers only if the other does and lists
every untrusted class and every annotation that the other lists (`Config.Tightens`).  What
it trusts, the other trusts.  So the values of virtual fields are the same under both, up
to references, but for variables whose initializer the looser configuration alone trusts:
there the looser one gives a constant, and the tighter one the read of the field
(`VirtualField.create_tightened`).
-/

namespace VirtualFields

namespace Config

/-- A configuration trusts initializers only if another does, and lists the untrusted
classes and the annotations of the other among its own. -/
structure Tightens (tight loose : Config) : Prop where
  trustInitializers : tight.trustInitializers → loose.trustInitializers
  untrustedClasses : loose.untrustedClasses ⊆ tight.untrustedClasses
  writeAnnotations : loose.writeAnnotations ⊆ tight.writeAnnotations

variable {tight loose : Config}

/-- The tighter configuration distrusts whom the looser one distrusts. -/
theorem Tightens.distrusts (h : tight.Tightens loose) {o : Owner} (ho : loose.distrusts o) :
  tight.distrusts o
  := by
  cases o with
  | named className =>
    simp only [Config.distrusts, List.contains_iff_mem] at ho ⊢
    exact h.untrustedClasses ho
  | arrayClass => contradiction

/-- The looser configuration trusts the fields that the tighter one trusts. -/
theorem Tightens.trusts (h : tight.Tightens loose) {d : Field Expr} (hd : tight.trusts d) :
  loose.trusts d
  := by
  rw [trusts_iff] at hd ⊢
  obtain ⟨henabled, hfinal, hvolatile, howner, hannotations⟩ := hd
  use h.trustInitializers henabled, hfinal, hvolatile
  constructor
  · intro hdistrust
    exact howner (h.distrusts hdistrust)
  · intro a ha hlisted
    exact hannotations a ha (h.writeAnnotations hlisted)

end Config

namespace VirtualField

variable {f : VirtualField} {env : Collaborators} {v : Variable Ref} {c : Constant}

/-- The derivation on a qualifier that is no variable has no key. -/
theorem key?_derive_of_ne_var (f : VirtualField) {q : Option (Value Ref)}
    (hq : ∀ v, q ≠ some (.var v)) (env : Collaborators) (target : Option Ty) :
  (f.derive env q target).key? f = none
  := by
  rcases q with _ | (c | v | s | inner | _)
  · rw [derive_none]
    rfl
  · rw [derive_constant]
    cases f.ofConstant? c with
    | _ => rfl
  · exact absurd rfl (hq v)
  · rw [derive_facts]
    cases f.extract? s.tag with
    | _ => rfl
  · by_cases hf : f = unbox
    · subst hf
      rfl
    · rw [derive_boxed hf]
      rfl
  · rw [derive_unknown]
    rfl

/-- The value on a qualifier that is no variable depends neither on the collaborators nor on
the table. -/
theorem answer_of_ne_var (f : VirtualField) {q : Option (Value Ref)}
    (hq : ∀ v, q ≠ some (.var v)) (env env' : Collaborators) (t t' : VariableTable)
    (target : Option Ty) :
  (f.create env t q target).answer = (f.create env' t' q target).answer
  := by
  rw [create, create, f.derive_congr_of_ne_var hq env env' target target]
  exact Derivation.answer_of_no_key (f.key?_derive_of_ne_var hq env' target) t t'

/-- If no trusted initializer gives a constant, the value of a virtual field on a variable
is the read of the field. -/
theorem create_var_of_none (h : f.ofTrusted? env v = none) (t : VariableTable)
    (target : Option Ty) :
  f.create env t (some (.var v)) target
    = (t.access f v (target <|> f.typeOn? v.type env.types)).asValue
  := by
  rw [create, derive_var, h]
  rfl

/-- The reads of a virtual field on a variable have the same shape in all tables. -/
theorem shape_access (f : VirtualField) (v : Variable Ref) (type : Option Ty)
    (t t' : VariableTable) :
  (t.access f v type).asValue.answer.shape = (t'.access f v type).asValue.answer.shape
  := by
  obtain ⟨-, hpath, -⟩ := t.lookUp_spec ⟨.field f, some v, type⟩
  obtain ⟨-, hpath', -⟩ := t'.lookUp_spec ⟨.field f, some v, type⟩
  exact congrArg Value.var (hpath.trans hpath'.symm)

/-- A constant that a trusted initializer gives under the tighter configuration, it gives
under the looser one. -/
theorem ofTrusted?_of_tightens {tight loose : Config} (h : tight.Tightens loose)
    (hc : f.ofTrusted? { env with trusts := tight.trusts } v = some c) :
  f.ofTrusted? { env with trusts := loose.trusts } v = some c
  := by
  rw [ofTrusted?_eq_some_iff] at hc ⊢
  obtain ⟨d, e, hd, htrust, he, hc⟩ := hc
  use d, e, hd, h.trusts htrust, he, hc

/-- A configuration that trusts no initializers gives no constants. -/
theorem ofTrusted?_of_disabled {config : Config} (h : config.trustInitializers = false) :
  f.ofTrusted? { env with trusts := config.trusts } v = none
  := by
  rw [Option.eq_none_iff_forall_ne_some]
  intro c hc
  obtain ⟨d, e, -, htrust, -⟩ := (ofTrusted?_eq_some_iff ..).mp hc
  have henabled := ((config.trusts_iff d).mp htrust).1
  rw [h] at henabled
  contradiction

/-- The values of a virtual field on a variable under two configurations have the same shape,
or the looser configuration gives the constant of an initializer that the tighter one does
not trust, and the tighter one the read of the field. -/
theorem create_var_tightened {tight loose : Config} (h : tight.Tightens loose)
    (f : VirtualField) (env : Collaborators) (t t' : VariableTable) (v : Variable Ref)
    (target : Option Ty) :
  let precise := (f.create { env with trusts := loose.trusts } t (some (.var v)) target).answer
  let general := (f.create { env with trusts := tight.trusts } t' (some (.var v)) target).answer
  precise.shape = general.shape
    ∨ ∃ d e c, v.field? = some d ∧ d.staticInitializer? = some e
      ∧ loose.trusts d ∧ ¬ tight.trusts d
      ∧ f.ofInitializerBy? env.evaluate? e = some c ∧ precise = .constant c
      ∧ general = .var (t'.access f v (target <|> f.typeOn? v.type env.types)).answer
  := by
  intro precise general
  cases htight : f.ofTrusted? { env with trusts := tight.trusts } v with
  | some c =>
    left
    have hprecise : precise = .constant c :=
      (create_var_eq_constant_iff ..).mpr (ofTrusted?_of_tightens h htight)
    have hgeneral : general = .constant c := (create_var_eq_constant_iff ..).mpr htight
    rw [hprecise, hgeneral]
  | none =>
    have hgeneral : general = _ := congrArg Reply.answer (create_var_of_none htight t' target)
    cases hloose : f.ofTrusted? { env with trusts := loose.trusts } v with
    | none =>
      left
      have hprecise : precise = _ := congrArg Reply.answer (create_var_of_none hloose t target)
      rw [hprecise, hgeneral]
      apply shape_access
    | some c =>
      right
      obtain ⟨d, e, hd, htrust, he, hc⟩ := (ofTrusted?_eq_some_iff ..).mp hloose
      have hdistrust : ¬ tight.trusts d := by
        intro htrust'
        have hsome : f.ofTrusted? { env with trusts := tight.trusts } v = some c :=
          (ofTrusted?_eq_some_iff ..).mpr ⟨d, e, hd, htrust', he, hc⟩
        rw [htight] at hsome
        contradiction
      use d, e, c, hd, he, htrust, hdistrust, hc
      exact ⟨(create_var_eq_constant_iff ..).mpr hloose, hgeneral⟩

/-- What a tighter configuration trusts, a looser one trusts.  So, whatever the resolver and
the evaluator, the values of a virtual field under the two have the same shape, or the
qualifier is a variable, the looser configuration gives the constant of an initializer that
the tighter one does not trust, and the tighter one the read of the field.  On qualifiers
that are no variables the values are the same.  If no initializer is trusted, the value on
every variable is a variable. -/
theorem create_tightened {tight loose : Config} (h : tight.Tightens loose) :
  (∀ d, tight.trusts d → loose.trusts d)
    ∧ (∀ (f : VirtualField) (env : Collaborators) (t t' : VariableTable) (q : Option (Value Ref))
        (target : Option Ty),
      let precise := (f.create { env with trusts := loose.trusts } t q target).answer
      let general := (f.create { env with trusts := tight.trusts } t' q target).answer
      (precise.shape = general.shape
        ∨ ∃ v d e c, q = some (.var v) ∧ v.field? = some d ∧ d.staticInitializer? = some e
          ∧ loose.trusts d ∧ ¬ tight.trusts d
          ∧ f.ofInitializerBy? env.evaluate? e = some c ∧ precise = .constant c
          ∧ general = .var (t'.access f v (target <|> f.typeOn? v.type env.types)).answer)
      ∧ ((∀ v, q ≠ some (.var v)) → precise = general))
    ∧ (∀ (f : VirtualField) (env : Collaborators) (config : Config) (t : VariableTable)
        (v : Variable Ref) (target : Option Ty), config.trustInitializers = false →
      ∃ w, (f.create { env with trusts := config.trusts } t (some (.var v)) target).answer
        = .var w)
  := by
  and_intros
  · intro d
    exact h.trusts
  · intro f env t t' q target precise general
    by_cases hq : ∃ v, q = some (.var v)
    · obtain ⟨v, rfl⟩ := hq
      refine ⟨?_, fun hno => absurd rfl (hno v)⟩
      rcases create_var_tightened h f env t t' v target with hshape | ⟨d, e, c, hrest⟩
      · exact .inl hshape
      · exact .inr ⟨v, d, e, c, rfl, hrest⟩
    · have hsame : precise = general := answer_of_ne_var f (not_exists.mp hq) _ _ t t' target
      exact ⟨.inl (congrArg Value.shape hsame), fun _ => hsame⟩
  · intro f env config t v target hdisabled
    have hnone : f.ofTrusted? { env with trusts := config.trusts } v = none :=
      ofTrusted?_of_disabled hdisabled
    exact ⟨_, congrArg Reply.answer (create_var_of_none hnone t target)⟩

/-- Once its owner is distrusted, an array that is created with a constant size has a
variable for its length instead of a constant. -/
theorem create_tightened_settings :
  let tight : Config := { untrustedClasses := ["com.example.Constants"] }
  let length (config : Config) :=
    (arrayLength.create { Collaborators.stock with trusts := config.trusts } { label := 0 }
      (some (.var settingsArray)) none).answer
  tight.Tightens {} ∧ length {} = .constant (.int 4) ∧ ∃ w, length tight = .var w
  := by
  intro tight length
  have htight : tight.Tightens {} := by
    constructor
    · exact id
    · exact List.nil_subset _
    · exact List.Subset.refl _
  have hfour : length {} = .constant (.int 4) := by decide +kernel
  use htight, hfour
  obtain ⟨-, hcreate, -⟩ := create_tightened htight
  obtain ⟨hshape | ⟨v, d, e, c, -, -, -, -, -, -, -, hvar⟩, -⟩ :=
    hcreate arrayLength .stock { label := 0 } { label := 0 } (some (.var settingsArray)) none
  · have hdiffer : (length {}).shape ≠ (length tight).shape := by decide +kernel
    exact absurd hshape hdiffer
  · exact ⟨_, hvar⟩

end VirtualField

end VirtualFields
