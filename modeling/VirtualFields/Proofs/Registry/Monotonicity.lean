import VirtualFields.Proofs.Registry.Overlap
import VirtualFields.Proofs.Ty.Reachability

/-!
# Monotonicity of the registry

The registry looks at a class hierarchy through its declared edges alone, and more edges give
more matches: a virtual field that matches in a hierarchy matches in every hierarchy that
declares the same edges and perhaps others, in whatever order and however often.  A new match
may come before the one that the registry answered with, so the answer is kept or moves to an
earlier field (`VirtualField.answers_mono`).
-/

namespace VirtualFields

variable {h h' : Hierarchy}

namespace Hierarchy

variable {c a : String} {t : Ty}

/-- The edges of a hierarchy that is built by declarations are among those of another exactly if
the declarations of the other list them too. -/
theorem edges_declareAll_subset_iff {ds ds' : List (String × List String)} :
  (declareAll {} ds).edges ⊆ (declareAll {} ds').edges
    ↔ ∀ c s, DeclaredIn ds c s → DeclaredIn ds' c s
  := by
  constructor
  · intro hedges c s hs
    apply mem_edges_declareAll.mp (hedges (mem_edges_declareAll.mpr hs))
  · rintro hsub ⟨c, s⟩ hedge
    apply mem_edges_declareAll.mpr (hsub c s (mem_edges_declareAll.mp hedge))

/-- More edges keep the subclasses. -/
theorem isSubclass_mono (hsub : h.edges ⊆ h'.edges) (hc : h.isSubclass c a) :
  h'.isSubclass c a
  := by
  rw [isSubclass_iff] at hc ⊢
  apply hc.imp_right
  apply Leads.mono
  intro e
  apply hsub

theorem isInheritor_mono (hsub : h.edges ⊆ h'.edges) (ht : h.isInheritor t a) :
  h'.isInheritor t a
  := by
  rw [isInheritor, Option.any_eq_true] at ht ⊢
  obtain ⟨c, hc, hca⟩ := ht
  use c, hc
  apply isSubclass_mono hsub hca

/-- What more edges keep is the same in hierarchies with the same edges. -/
theorem eq_of_mono {p : Hierarchy → Bool}
    (hmono : ∀ {h h' : Hierarchy}, h.edges ⊆ h'.edges → p h → p h')
    (hsub : h.edges ⊆ h'.edges) (hsup : h'.edges ⊆ h.edges) :
  p h = p h'
  := by
  rw [Bool.eq_iff_iff]
  constructor
  · apply hmono hsub
  · apply hmono hsup

end Hierarchy

namespace VirtualField

open Hierarchy

variable {f : VirtualField} {t : Ty} {m : Member} {e : Element}

/-! ### More edges -/

/-- More edges keep the virtual fields of a type. -/
theorem exposedBy_mono (hsub : h.edges ⊆ h'.edges) (ht : f.exposedBy h t) :
  f.exposedBy h' t
  := by
  cases hc : t.className? with
  | none =>
    rw [exposedBy_of_no_class hc] at ht ⊢
    apply ht
  | some c =>
    obtain ⟨args, rfl⟩ := Ty.className?_eq_some_iff.mp hc
    rw [exposedBy_named] at ht ⊢
    apply ht.imp_left
    rintro ⟨a, ha, hca⟩
    use a, ha, isSubclass_mono hsub hca

/-- More edges keep the virtual fields that a member reads. -/
theorem readBy_mono (hsub : h.edges ⊆ h'.edges) (hread : f.readBy h m) :
  f.readBy h' m
  := by
  cases m with
  | field d => apply hread
  | method d =>
    cases ha : f.ownerClass? with
    | none =>
      -- What is known by name or by form does not depend on the hierarchy.
      cases f with
      | arrayLength | unbox | optionalValue => apply hread
      | stringLength | collectionSize | mapSize => contradiction
    | some a =>
      rw [readBy_method_iff ha] at hread ⊢
      obtain ⟨hname, hparams, c, howner, hca⟩ := hread
      use hname, hparams, c, howner, isSubclass_mono hsub hca

/-- More edges keep the first virtual field of a type or give an earlier one. -/
theorem ofType?_mono (hsub : h.edges ⊆ h'.edges) (hf : ofType? h t = some f) :
  ∃ g, ofType? h' t = some g ∧ g.rank ≤ f.rank
  := by
  apply find?_all_mono _ hf
  intro g
  apply exposedBy_mono hsub

/-- More edges keep the first virtual field that an element reads or give an earlier one. -/
theorem ofAccessor?_mono (hsub : h.edges ⊆ h'.edges) (hf : ofAccessor? h e = some f) :
  ∃ g, ofAccessor? h' e = some g ∧ g.rank ≤ f.rank
  := by
  obtain ⟨m, hm, hfind⟩ := Option.bind_eq_some_iff.mp hf
  rw [ofAccessor?, hm, Option.bind_some]
  apply find?_all_mono _ hfind
  intro g
  apply readBy_mono hsub

/-! ### The same edges -/

theorem exposedBy_eq (hsub : h.edges ⊆ h'.edges) (hsup : h'.edges ⊆ h.edges)
    (f : VirtualField) (t : Ty) :
  f.exposedBy h t = f.exposedBy h' t
  := eq_of_mono (p := (f.exposedBy · t)) exposedBy_mono hsub hsup

theorem readBy_eq (hsub : h.edges ⊆ h'.edges) (hsup : h'.edges ⊆ h.edges) (f : VirtualField)
    (m : Member) :
  f.readBy h m = f.readBy h' m
  := eq_of_mono (p := (f.readBy · m)) readBy_mono hsub hsup

/-- Take two hierarchies, built by any declarations, such that the edges declared in the one are
declared in the other.  A virtual field that matches a type or an accessor in the one matches it
in the other.  If the registry has an answer in the one, it has an answer in the other, which is
not later.  If the two declare the same edges, all their answers are the same. -/
theorem answers_mono (ds ds' : List (String × List String))
    (hsub : ∀ c s, DeclaredIn ds c s → DeclaredIn ds' c s) :
  let h := declareAll {} ds
  let h' := declareAll {} ds'
  (∀ (f : VirtualField) (t : Ty), f.exposedBy h t → f.exposedBy h' t)
    ∧ (∀ (f : VirtualField) (m : Member), f.readBy h m → f.readBy h' m)
    ∧ (∀ (t : Ty) (f : VirtualField), ofType? h t = some f →
        ∃ g, ofType? h' t = some g ∧ g.rank ≤ f.rank)
    ∧ (∀ (e : Element) (f : VirtualField), ofAccessor? h e = some f →
        ∃ g, ofAccessor? h' e = some g ∧ g.rank ≤ f.rank)
    ∧ ((∀ c s, DeclaredIn ds' c s → DeclaredIn ds c s) →
        (∀ c a, h.isSubclass c a = h'.isSubclass c a)
          ∧ (∀ t a, h.isInheritor t a = h'.isInheritor t a)
          ∧ (∀ (f : VirtualField) (t : Ty), f.exposedBy h t = f.exposedBy h' t)
          ∧ (∀ (f : VirtualField) (m : Member), f.readBy h m = f.readBy h' m)
          ∧ (∀ t, ofType? h t = ofType? h' t)
          ∧ ∀ e, ofAccessor? h e = ofAccessor? h' e)
  := by
  intro h h'
  have hedges : h.edges ⊆ h'.edges := edges_declareAll_subset_iff.mpr hsub
  and_intros
  · intro f t
    apply exposedBy_mono hedges
  · intro f m
    apply readBy_mono hedges
  · intro t f
    apply ofType?_mono hedges
  · intro e f
    apply ofAccessor?_mono hedges
  · intro hsup
    have hedges' : h'.edges ⊆ h.edges := edges_declareAll_subset_iff.mpr hsup
    and_intros
    · intro c a
      apply eq_of_mono (p := (isSubclass · c a)) isSubclass_mono hedges hedges'
    · intro t a
      apply eq_of_mono (p := (isInheritor · t a)) isInheritor_mono hedges hedges'
    · apply exposedBy_eq hedges hedges'
    · apply readBy_eq hedges hedges'
    · intro t
      simp only [ofType?, exposedBy_eq hedges hedges']
    · intro e
      simp only [ofAccessor?, readBy_eq hedges hedges']

/-- Declarations of ropes that are lists. -/
def listRopes : List (String × List String) := [
  ("com.example.Rope", ["java.util.List"]),
  ("java.util.List", [ClassName.collection])]

/-- Declarations of ropes that are lists and strings, with one of the edges declared twice. -/
def stringRopes : List (String × List String) := [
  ("java.util.List", [ClassName.collection, ClassName.iterable]),
  ("com.example.Rope", [ClassName.string]),
  ("com.example.Rope", ["java.util.List", "java.util.List"])]

/-- Ropes that become strings too still have the size of a collection, while the registry
answers with the length of a string; the order in which lists and ropes are declared has no
influence. -/
theorem answers_mono_ropes :
  (declareAll {} listRopes).edges ⊆ (declareAll {} stringRopes).edges
    ∧ ofType? (declareAll {} listRopes) (.raw "com.example.Rope") = some collectionSize
    ∧ collectionSize.exposedBy (declareAll {} stringRopes) (.raw "com.example.Rope")
    ∧ (∃ g, ofType? (declareAll {} stringRopes) (.raw "com.example.Rope") = some g
      ∧ g.rank ≤ collectionSize.rank ∧ g = stringLength)
    ∧ ∀ t, ofType? (declareAll {} listRopes) t = ofType? (declareAll {} listRopes.reverse) t
  := by
  have hedges : (declareAll {} listRopes).edges ⊆ (declareAll {} stringRopes).edges := by decide
  have hlist : ofType? (declareAll {} listRopes) (.raw "com.example.Rope")
      = some collectionSize := by
    cbv
  have hstring : ofType? (declareAll {} stringRopes) (.raw "com.example.Rope")
      = some stringLength := by
    cbv
  obtain ⟨hexposed, -, htype, -⟩ :=
    answers_mono listRopes stringRopes (edges_declareAll_subset_iff.mp hedges)
  use hedges, hlist
  and_intros
  · apply hexposed
    apply ((find?_all_eq_some_iff _ _).mp hlist).1
  · obtain ⟨g, hg, hrank⟩ := htype _ _ hlist
    use g, hg, hrank
    apply Option.some.inj (hg.symm.trans hstring)
  · have hsame : ∀ c s, DeclaredIn listRopes c s ↔ DeclaredIn listRopes.reverse c s := by
      simp [DeclaredIn]
    obtain ⟨-, -, -, -, hequal⟩ :=
      answers_mono listRopes listRopes.reverse fun c s => (hsame c s).mp
    obtain ⟨-, -, -, -, htypes, -⟩ := hequal fun c s => (hsame c s).mpr
    apply htypes

end VirtualField

end VirtualFields
