import VirtualFields.Derivation.Create
import VirtualFields.Proofs.Expr.Calls

/-!
# Trusted initializers

A constant that is derived for a virtual field of a variable comes from the initializer of
the static final field that the variable stands for, and the configuration trusts that
field (`VirtualField.create_constant_trusted`).  Folding the initializer follows the reads
of further static final fields, whether or not the configuration trusts them: the reads of
constants within constant expressions are not subject to trust
(`VirtualField.not_all_reads_trusted`).
-/

namespace VirtualFields

/-- Folding an expression folds the initializer of a field on the way. -/
def Expr.ReadsInitializer (limit : Nat) (e : Expr) (g : Field Expr) : Prop :=
  ∃ n b, Call.Reaches limit ⟨0, e⟩ ⟨n, .read g⟩ ∧ Call.Step limit ⟨n, .read g⟩ b

/-- A field whose initializer is folded on the way is a static final field. -/
theorem Expr.ReadsInitializer.isStaticFinal {limit : Nat} {e : Expr} {g : Field Expr}
    (h : e.ReadsInitializer limit g) :
  g.modifiers.isStaticFinal ∧ g.initializer.isSome
  := by
  obtain ⟨n, b, -, hstep⟩ := h
  cases hstep with
  | initializer _ hg =>
    obtain ⟨hstatic, hinit⟩ := Field.staticInitializer?_eq_some_iff.mp hg
    use hstatic
    rw [hinit, Option.isSome_some]

/-- A configuration trusts exactly the fields that are final, not volatile, owned by no
untrusted class and without an annotation for implicit writes, if it trusts any. -/
theorem Config.trusts_iff (c : Config) (f : Field Expr) :
  c.trusts f ↔ c.trustInitializers ∧ f.modifiers.has .final ∧ ¬ f.modifiers.has .volatile
    ∧ ¬ c.distrusts f.owner ∧ ∀ a ∈ f.annotations, a ∉ c.writeAnnotations
  := by
  simp [trusts, and_assoc]

namespace VirtualField

/-- The part of an initializer that is folded for the value of a virtual field: the first
dimension of a created array, and the expression of a string. -/
def foldedPart? : VirtualField → Expr → Option Expr
  | arrayLength, .newArray _ (dimension :: _) => some dimension
  | stringLength, e => some e
  | _, _ => none

/-- The initializer of a field is folded for the value of a virtual field on the object
that an initializer builds. -/
def ReadsInitializer (f : VirtualField) (limit : Nat) (e : Expr) (g : Field Expr) : Prop :=
  ∃ part, f.foldedPart? e = some part ∧ part.ReadsInitializer limit g

variable (f : VirtualField) (env : Collaborators) (t : VariableTable) (v : Variable Ref)
  (target : Option Ty) (c : Constant)

/-- The value of a virtual field on a variable comes from a trusted initializer if there is
one, and is the read of the field otherwise. -/
theorem derive_var :
  f.derive env (some (.var v)) target
    = match f.ofTrusted? env v with
      | some c => .folded v c
      | none => .access v (target <|> f.typeOn? v.type env.types)
  := by
  cases f with
  | _ => rfl

/-- The value of a virtual field on a variable is a constant exactly when a trusted
initializer gives it. -/
theorem create_var_eq_constant_iff :
  (f.create env t (some (.var v)) target).answer = .constant c ↔ f.ofTrusted? env v = some c
  := by
  rw [create, derive_var]
  cases f.ofTrusted? env v with
  | none => simp [Derivation.create]
  | some d => simp [Derivation.create]

/-- A trusted initializer is the initializer of a trusted static final field that the
variable stands for. -/
theorem ofTrusted?_eq_some_iff :
  f.ofTrusted? env v = some c ↔ ∃ d e, v.field? = some d ∧ env.trusts d
    ∧ d.staticInitializer? = some e ∧ f.ofInitializerBy? env.evaluate? e = some c
  := by
  rw [ofTrusted?, Option.bind_eq_some_iff]
  constructor
  · rintro ⟨d, hd, h⟩
    split at h
    next htrust =>
      obtain ⟨e, he, hc⟩ := Option.bind_eq_some_iff.mp h
      use d, e
    next => contradiction
  · rintro ⟨d, e, hd, htrust, he, hc⟩
    use d, hd
    rw [if_pos htrust, he, Option.bind_some, hc]

/-- A constant that is the value of a virtual field on a variable is given by the
initializer of the static final field that the variable stands for.  The configuration
trusts this field: it is not volatile, owned by no untrusted class and without an
annotation for implicit writes.  All fields whose initializers are folded on the way are
static final fields, and every configuration that trusts the variable's field gives the
same constant. -/
theorem create_constant_trusted {types : TypeResolver} {depth : Nat} {config : Config}
    (h : (f.create (.configured types depth config) t (some (.var v)) target).answer
      = .constant c) :
  ∃ d e, v.field? = some d ∧ d.staticInitializer? = some e
    ∧ f.ofInitializer? depth e = some c
    ∧ config.trusts d
    ∧ ¬ d.modifiers.has .volatile ∧ ¬ config.distrusts d.owner
    ∧ (∀ a ∈ d.annotations, a ∉ config.writeAnnotations)
    ∧ (∀ g, f.ReadsInitializer depth e g →
        config.trustInitializers ∧ g.modifiers.isStaticFinal ∧ g.initializer.isSome)
    ∧ ∀ config' : Config, config'.trusts d →
        (f.create (.configured types depth config') t (some (.var v)) target).answer
          = .constant c
  := by
  rw [create_var_eq_constant_iff, ofTrusted?_eq_some_iff] at h
  obtain ⟨d, e, hd, htrust, he, hc⟩ := h
  obtain ⟨henabled, -, hvolatile, howner, hannotations⟩ := (config.trusts_iff d).mp htrust
  use d, e, hd, he, hc, htrust, hvolatile, howner, hannotations
  constructor
  · rintro g ⟨part, -, hg⟩
    exact ⟨henabled, hg.isStaticFinal⟩
  · intro config' htrust'
    rw [create_var_eq_constant_iff, ofTrusted?_eq_some_iff]
    use d, e, hd, htrust', he, hc

/-- The constant `SIZE` of a class of settings. -/
def settingsSize : Field Expr where
  name := "SIZE"
  owner := .named "com.example.Settings"
  modifiers := .ofList [.static, .final]
  type := .int
  initializer := some (.literal (.int 4))

/-- The variable of an array that is created with the size of the settings. -/
def settingsArray : Variable Ref where
  ref := ⟨0, 0⟩
  descriptor := .element (.member (.field
    { name := "B", owner := .named "com.example.Constants",
      modifiers := .ofList [.static, .final], type := .array .int,
      initializer := some (.newArray .int [.read settingsSize]) }))
  qualifier := none
  type := some (.array .int)

/-- The stock settings but for an untrusted class. -/
def distrustingSettings : Environment where
  config := { untrustedClasses := ["com.example.Settings"] }

/-- The length of an array that is created with the size of the settings is the same
constant whether or not the settings are trusted. -/
theorem create_constant_trusted_settings :
  let length (env : Environment) :=
    (arrayLength.create env { label := 0 } (some (.var settingsArray)) none).answer
  length {} = .constant (.int 4) ∧ length distrustingSettings = .constant (.int 4)
  := by
  intro length
  have h : length {} = .constant (.int 4) := by decide +kernel
  obtain ⟨d, e, hd, -, -, -, -, -, -, -, hconfig⟩ :=
    create_constant_trusted arrayLength { label := 0 } settingsArray none (.int 4) h
  cases hd
  use h
  apply hconfig
  decide +kernel

/-- Not all fields whose initializers are folded for a constant are trusted: the size of an
array may be a field of an untrusted class. -/
theorem not_all_reads_trusted :
  ¬ ∀ (f : VirtualField) (env : Environment) (t : VariableTable) (v : Variable Ref)
      (target : Option Ty) (c : Constant),
    (f.create env t (some (.var v)) target).answer = .constant c →
      ∃ d e, v.field? = some d ∧ d.initializer = some e ∧ env.config.trusts d
        ∧ ∀ g, f.ReadsInitializer env.depth e g → env.config.trusts g
  := by
  intro hall
  have hc : (arrayLength.create distrustingSettings { label := 0 } (some (.var settingsArray))
      none).answer = .constant (.int 4) := by
    decide +kernel
  obtain ⟨d, e, hd, he, -, htrust⟩ := hall arrayLength _ _ _ _ _ hc
  cases hd
  cases he
  have hread : arrayLength.ReadsInitializer distrustingSettings.depth
      (.newArray .int [.read settingsSize]) settingsSize := by
    use .read settingsSize, rfl, 0, ⟨1, .literal (.int 4)⟩, .refl
    apply Expr.Call.Step.initializer
    · decide
    · decide +kernel
  have hdistrust : ¬ distrustingSettings.config.trusts settingsSize := by decide +kernel
  exact hdistrust (htrust settingsSize hread)

end VirtualField

end VirtualFields
