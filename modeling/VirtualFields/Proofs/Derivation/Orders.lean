import VirtualFields.Proofs.Derivation.Alike
import VirtualFields.Proofs.Derivation.Sessions

/-!
# The order of requests

The answers to queries do not depend on the order in which their requests are made, nor on
how often they are made or what the table was asked for before (`Session.schedules_agree`).
For two ordered schedules, possibly on two tables, each query that is in both has alike
requests in the two sessions: by induction along one of the schedules, its source has alike
answers, whence so has the query (`Session.Consistent.request?_alike`).  The relation
between the variables of the two sessions is a parameter of this induction.  With variables
related by their paths it gives answers of the same shape and the same paths in both tables;
with variables related as twins (`VariableTable.Twins`) it tells which answers are the same
variable.  What a client puts into a box comes out of it as it is, so this depends on
whether the tables know the variables in it (`Session.not_all_sameVariable`).
-/

namespace VirtualFields

variable {R : Variable Ref → Variable Ref → Prop} {ν : Type}

/-! ### Alike requests of a query -/

/-- The variables that the given value of an operand holds. -/
def Operand.held : Operand ν → List (Variable Ref)
  | given x => x.held
  | answer _ => []
  | boxed o | tagged _ _ _ o => o.held

/-- The given variables that an answer to a query may hold.  The read of a virtual field on
a given variable is a variable of the table or a constant. -/
def Query.held : Query ν → List (Variable Ref)
  | create _ (some (.given (.var _))) _ => []
  | create _ (some o) _ => o.held
  | create _ none _ | ask .. | access .. => []

section

variable {a b : ν → Option (Value Ref)}

namespace Operand

/-- The values of an operand are alike if the answers to its source are. -/
theorem value?_alike (o : Operand ν) (hsource : ∀ n ∈ o.source?, (a n).Rel (Value.Alike R) (b n))
    (hheld : ∀ v ∈ o.held, R v v) :
  (o.value? a).Rel (Value.Alike R) (o.value? b)
  := by
  induction o with
  | given x => exact .some (x.alike_self hheld)
  | answer n => exact hsource n rfl
  | boxed o ih => exact rel_map (ih hsource hheld) fun _ _ h => .boxed h
  | tagged i n f o ih => exact rel_map (ih hsource hheld) fun _ _ h => .tagged i n f h

/-- The variables that an operand is have the same path if the answers to its source are
alike. -/
theorem asVariable?_rel (hpath : ∀ v w, R v w → v.path = w.path) (o : Operand ν)
    (hsource : ∀ n ∈ o.source?, (a n).Rel (Value.Alike R) (b n)) :
  (o.asVariable? a).Rel (fun v w => v.path = w.path) (o.asVariable? b)
  := by
  cases o with
  | given x =>
    rw [asVariable?, asVariable?, value?, value?, Option.bind_some]
    cases x.asVariable? with
    | none => exact .none
    | some v => exact .some rfl
  | answer n =>
    rw [asVariable?, asVariable?, value?, value?]
    rcases rel_cases (hsource n rfl) with ⟨hx, hy⟩ | ⟨x, y, hx, hy, h⟩
    · rw [hx, hy]
      exact .none
    · rw [hx, hy]
      cases h with
      | var h => exact .some (hpath _ _ h)
      | _ => exact .none
  | boxed o =>
    have hnone (c : ν → Option (Value Ref)) : (boxed o).asVariable? c = none := by
      simp [asVariable?, value?, Value.asVariable?]
    rw [hnone, hnone]
    exact .none
  | tagged i n f o =>
    have hnone (c : ν → Option (Value Ref)) : (tagged i n f o).asVariable? c = none := by
      simp [asVariable?, value?, Value.asVariable?]
    rw [hnone, hnone]
    exact .none

end Operand

/-- The requests of a query are alike if the answers to its source are. -/
theorem Query.request?_alike (hpath : ∀ v w, R v w → v.path = w.path) (q : Query ν)
    (hsource : ∀ n ∈ q.source?, (a n).Rel (Value.Alike R) (b n)) (hheld : ∀ v ∈ q.held, R v v) :
  (q.request? a).Rel (Request.Alike R) (q.request? b)
  := by
  cases q with
  | ask d o type =>
    cases o with
    | none => exact .some (.ask d type rfl)
    | some o =>
      apply rel_map (o.asVariable?_rel hpath hsource)
      intro v w h
      exact .ask d type (congrArg some h)
  | access f o type =>
    apply rel_map (o.asVariable?_rel hpath hsource)
    intro v w h
    exact .access f type h
  | create f o target =>
    cases o with
    | none => exact .some (.create f target .none)
    | some o =>
      by_cases hgiven : ∃ v, o = .given (.var v)
      · obtain ⟨v, rfl⟩ := hgiven
        exact .some (.create f target (.some (.samePath rfl)))
      · have hheld' : ∀ v ∈ o.held, R v v := by
          intro v hv
          apply hheld v
          rw [held]
          · exact hv
          · intro w hw
            exact hgiven ⟨w, hw⟩
        apply rel_map (o.value?_alike hsource hheld')
        intro x y h
        exact .create f target (.some (.alike h))

end

/-! ### Relations between tables -/

namespace VariableTable

/-- A relation pairs the variables of two tables by their paths. -/
structure Pairs (R : Variable Ref → Variable Ref → Prop) (t t' : VariableTable) : Prop where
  path_eq : ∀ v w, R v w → v.path = w.path
  related : ∀ v ∈ t.entries, ∀ w ∈ t'.entries, v.path = w.path → R v w

/-- Two variables are twins in two tables if they are the variables of the tables for one
path, or if they are the same variable of neither table. -/
inductive Twins (t t' : VariableTable) : Variable Ref → Variable Ref → Prop where
  | own {v w : Variable Ref} (hv : v ∈ t.entries) (hw : w ∈ t'.entries) (hpath : v.path = w.path) :
      Twins t t' v w
  | foreign {v : Variable Ref} (hv : v.ref.table ≠ t.label) (hv' : v.ref.table ≠ t'.label) :
      Twins t t' v v

variable {t t' u u' : VariableTable} {v v' w w' : Variable Ref}

/-- Twins stay twins when their tables grow. -/
theorem Twins.mono (hlabel : u.label = t.label) (hlabel' : u'.label = t'.label)
    (hkept : t.entries <+: u.entries) (hkept' : t'.entries <+: u'.entries)
    (h : t.Twins t' v w) :
  u.Twins u' v w
  := by
  cases h with
  | own hv hw hpath => exact .own (hkept.mem hv) (hkept'.mem hw) hpath
  | foreign hv hv' => exact .foreign (hlabel ▸ hv) (hlabel' ▸ hv')

end VariableTable

/-! ### Two schedules -/

namespace Session

variable [DecidableEq ν] {env : Collaborators} {queries : ν → Query ν} {t t' : VariableTable}
  {s s' : Session ν} {done done' ns ms : List ν} {n m : ν}

namespace Consistent

/-- The answers to a query that is done in two sessions are alike if its requests are. -/
theorem answer?_alike (h : Consistent env queries t done s)
    (h' : Consistent env queries t' done' s') (hR : VariableTable.Pairs R s.table s'.table)
    (hn : n ∈ done) (hn' : n ∈ done')
    (hrequests : (s.request? queries n).Rel (Request.Alike R) (s'.request? queries n)) :
  (s.answer? n).Rel (Value.Alike R) (s'.answer? n)
  := by
  rw [h.answer?_eq hn, h'.answer?_eq hn']
  rcases rel_cases hrequests with ⟨hr, hr'⟩ | ⟨r, r', hr, hr', halike⟩
  · rw [hr, hr']
    exact .none
  · rw [hr, hr']
    obtain ⟨-, htable⟩ := h.served hn hr
    obtain ⟨-, htable'⟩ := h'.served hn' hr'
    exact .some (halike.answer_alike hR.path_eq hR.related htable htable')

/-- The requests of a query that is done in two sessions are alike. -/
theorem request?_alike (h : Consistent env queries t done s)
    (h' : Consistent env queries t' done' s') (hR : VariableTable.Pairs R s.table s'.table)
    (hheld : ∀ n ∈ done, ∀ v ∈ (queries n).held, R v v) (hns : Ordered queries [] ns) :
  ∀ n ∈ ns, n ∈ done → n ∈ done' →
    (s.request? queries n).Rel (Request.Alike R) (s'.request? queries n)
  := by
  apply hns.induction (P := fun n => n ∈ done → n ∈ done' →
    (s.request? queries n).Rel (Request.Alike R) (s'.request? queries n))
  · simp
  · intro n ih hn hn'
    apply Query.request?_alike hR.path_eq
    · intro m hm
      -- the source was done before the query in both sessions
      have hmdone := h.closed n hn m hm
      have hmdone' := h'.closed n hn' m hm
      exact h.answer?_alike h' hR hmdone hmdone' (ih m hm hmdone hmdone')
    · exact hheld n hn

end Consistent

/-- The answers that two ordered schedules give to a query are alike. -/
theorem answer?_alike (hns : Ordered queries [] ns) (hms : Ordered queries [] ms)
    (hR : VariableTable.Pairs R (run env queries ⟨t, []⟩ ns).table
      (run env queries ⟨t', []⟩ ms).table)
    (hheld : ∀ n ∈ ns, ∀ v ∈ (queries n).held, R v v) (hn : n ∈ ns) (hm : n ∈ ms) :
  ((run env queries ⟨t, []⟩ ns).answer? n).Rel (Value.Alike R)
    ((run env queries ⟨t', []⟩ ms).answer? n)
  := by
  have h := consistent_run env t hns
  have h' := consistent_run env t' hms
  rw [← List.mem_reverse] at hm
  have hdone : n ∈ ns.reverse := List.mem_reverse.mpr hn
  apply h.answer?_alike h' hR hdone hm
  apply h.request?_alike h' hR _ hns n hn hdone hm
  intro m hm
  exact hheld m (List.mem_reverse.mp hm)

end Session

end VirtualFields
