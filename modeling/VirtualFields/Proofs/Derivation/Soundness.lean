import VirtualFields.Proofs.Derivation.Precision
import VirtualFields.Proofs.Value.Meaning

/-!
# Soundness of the derivation

Whatever a virtual field is on an object that a qualifier describes, the value created for
the qualifier describes it (`VirtualField.create_sound`).  This holds of all qualifiers
without variables.  Their values are without variables again, so that the values of virtual
fields of virtual fields are described in turn, and the variable table is not asked.
-/

namespace VirtualFields

namespace VirtualField

variable {f : VirtualField} {env : Collaborators} {q x : Value Ref}

/-- A known value describes the field on the objects that the qualifier describes. -/
theorem Known.describes (hknown : f.Known env q x) (hq : q.VariableFree) {o y : Object}
    (ho : q.Describes o) (hy : f.on? o = some y) :
  x.Describes y
  := by
  cases hknown with
  | unboxed =>
    obtain ⟨s, rfl, hs⟩ := Value.describes_boxed_iff.mp ho
    cases hy
    exact hs
  | folded => contradiction
  | tagged htag =>
    obtain ⟨-, -, hvalue⟩ := Value.describes_facts_iff.mp ho
    exact hvalue _ htag y hy
  | literal hlength =>
    cases ho
    obtain ⟨-, rfl⟩ := on?_str_eq_some_iff.mp hy
    rfl

/-- A known value is without variables if the qualifier is. -/
theorem Known.variableFree (hknown : f.Known env q x) (hq : q.VariableFree) :
  x.VariableFree
  := by
  cases hknown with
  | unboxed => exact hq
  | folded => contradiction
  | tagged htag => exact Value.variableFree_facts_iff.mp hq _ htag
  | literal => exact trivial

/-- On a qualifier without variables, the value of a virtual field describes whatever the
field is on an object that the qualifier describes.  The value is without variables, and the
variable table stays as it is. -/
theorem create_sound (f : VirtualField) (env : Collaborators) (t : VariableTable)
    (target : Option Ty) (q : Value Ref) (hq : q.VariableFree) :
  (∀ o y, q.Describes o → f.on? o = some y →
      (f.create env t (some q) target).answer.Describes y)
    ∧ (f.create env t (some q) target).answer.VariableFree
    ∧ (f.create env t (some q) target).table = t
  := by
  have hyields := create_yields f env t (some q) target
  generalize f.create env t (some q) target = r at hyields ⊢
  obtain ⟨x, t', messages⟩ := r
  cases hyields with
  | known hknown =>
    and_intros
    · intro o y ho hy
      exact hknown.describes hq ho hy
    · exact hknown.variableFree hq
    · rfl
  | access => contradiction
  | default =>
    and_intros
    · intro o y _ hy
      exact describes_defaultValue hy
    · exact variableFree_defaultValue f
    · rfl

/-- An optional container that is known to hold the box of a number. -/
def boxedPayload : Value Ref :=
  .facts
    { nullability := some .notNull
      tag := some ⟨optionalValue, .boxed (.constant (.int 7))⟩ }

/-- The payload of an optional container that is known to hold a box is described as a box,
and the primitive in this payload as a number. -/
theorem create_sound_boxed_payload :
  let payload := (optionalValue.create .stock { label := 0 } (some boxedPayload) none).answer
  let number := (unbox.create .stock { label := 0 } (some payload) none).answer
  payload.Describes (.box (.int 7)) ∧ number.Describes (.constant (.int 7))
  := by
  intro payload number
  obtain ⟨hpayload, hfree, -⟩ :=
    create_sound optionalValue .stock { label := 0 } none boxedPayload trivial
  obtain ⟨hnumber, -⟩ := create_sound unbox .stock { label := 0 } none payload hfree
  have hbox : payload.Describes (.box (.int 7)) := by
    apply hpayload (.present (.box (.int 7)))
    · decide
    · rfl
  exact ⟨hbox, hnumber _ _ hbox rfl⟩

end VirtualField

end VirtualFields
