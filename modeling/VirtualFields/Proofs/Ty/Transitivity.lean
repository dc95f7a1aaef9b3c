import Mathlib.Data.Fintype.EquivFin
import VirtualFields.Proofs.Ty.Ancestry

/-!
# Transitivity of subtyping

Subtyping is reflexive, and transitive as far as declared chains lead.  That every class extends
the root class is not declared, so such a class does not get the supertypes that the root class
may be declared with: subtyping is transitive exactly if the root class is declared with no
supertype other than itself (`Hierarchy.isSubclass_trans_iff`,
`Hierarchy.not_all_isSubclass_trans`).
-/

namespace VirtualFields.Hierarchy

variable {h : Hierarchy} {a b c : String}

/-- The root class is declared with no supertype other than itself. -/
def RootIsTop (h : Hierarchy) : Prop :=
  ∀ e ∈ h.edges, e.1 = ClassName.object → e.2 = ClassName.object

instance (h : Hierarchy) : Decidable h.RootIsTop :=
  inferInstanceAs (Decidable (∀ e ∈ h.edges, _))

/-! ### Chains through a class -/

theorem isSubclass_refl (h : Hierarchy) (a : String) :
  h.isSubclass a a
  := by
  rw [isSubclass_iff]
  right
  apply Relation.ReflTransGen.refl

/-- What a class extends by a declared chain passes its supertypes on. -/
theorem Extends.isSubclass (hext : h.Extends a b) (hsub : h.isSubclass b c) :
  h.isSubclass a c
  := by
  rw [isSubclass_iff] at hsub ⊢
  apply hsub.imp_right
  apply Relation.ReflTransGen.trans hext

/-- A class is a subclass of the supertypes of its supertypes, unless the latter are those of
the root class and no declared chain leads there. -/
theorem isSubclass_trans (hroot : b = ClassName.object → h.Extends a b)
    (hab : h.isSubclass a b) (hbc : h.isSubclass b c) :
  h.isSubclass a c
  := by
  rcases (isSubclass_iff h a b).mp hab with hb | hext
  · apply (hroot hb).isSubclass hbc
  · apply hext.isSubclass hbc

/-- A class is a subclass of the supertypes it is declared with. -/
theorem isSubclass_of_mem_edges (hedge : (a, b) ∈ h.edges) :
  h.isSubclass a b
  := by
  rw [isSubclass_iff]
  right
  apply Relation.ReflTransGen.single hedge

/-- If the root class is declared with no other supertype, it extends itself alone. -/
theorem RootIsTop.eq_of_extends (htop : h.RootIsTop) (hext : h.Extends ClassName.object c) :
  c = ClassName.object
  := by
  induction hext with
  | refl => rfl
  | tail _ hedge ih => apply htop _ hedge ih

/-- If the root class is declared with no other supertype, subtyping is transitive. -/
theorem RootIsTop.isSubclass_trans (htop : h.RootIsTop) (hab : h.isSubclass a b)
    (hbc : h.isSubclass b c) :
  h.isSubclass a c
  := by
  rcases (isSubclass_iff h a b).mp hab with rfl | hext
  · rw [isSubclass_iff] at hbc ⊢
    left
    rcases hbc with hc | hext
    · apply hc
    · apply htop.eq_of_extends hext
  · apply hext.isSubclass hbc

/-! ### Classes that are not declared -/

/-- There are fresh classes other than a given one. -/
theorem exists_fresh (h : Hierarchy) (s : String) :
  ∃ x, h.Fresh x ∧ x ≠ s
  := by
  obtain ⟨x, hx⟩ :=
    Infinite.exists_notMem_finset (s :: h.declarations.flatMap fun d => d.1 :: d.2).toFinset
  simp only [List.mem_toFinset, List.mem_cons, List.mem_flatMap, not_or, not_exists,
    not_and] at hx
  obtain ⟨hs, hfresh⟩ := hx
  use x
  constructor
  · intro d hd
    obtain ⟨hname, hsupertypes⟩ := hfresh d hd
    exact ⟨Ne.symm hname, hsupertypes⟩
  · apply hs

/-- If the root class is declared with another supertype, classes that are not declared are no
subclasses of it, and subtyping is not transitive. -/
theorem rootIsTop_of_isSubclass_trans
    (htrans : ∀ a b c, h.isSubclass a b → h.isSubclass b c → h.isSubclass a c) :
  h.RootIsTop
  := by
  rintro ⟨_, s⟩ hedge rfl
  obtain ⟨x, hfresh, hne⟩ := exists_fresh h s
  have hroot := hfresh.isSubclass_iff.mpr (Or.inl rfl)
  have hsub := htrans x ClassName.object s hroot (isSubclass_of_mem_edges hedge)
  apply (hfresh.isSubclass_iff.mp hsub).resolve_right hne

/-- The types of a class inherit from what the class is a subclass of. -/
theorem isInheritor_named (args : List Ty) :
  h.isInheritor (.named c args) a ↔ h.isSubclass c a
  := by
  simp [isInheritor, Ty.className?]

/-- In every hierarchy, whatever its declarations are, subtyping is reflexive, and the classes
that a class is a subclass of pass their own supertypes on to the class and to its types.  Only
the root class does not, unless a declared chain leads to it.  Subtyping is transitive altogether,
for classes and for types, exactly if the root class is declared with no supertype other than
itself. -/
theorem isSubclass_trans_iff (h : Hierarchy) :
  (∀ a, h.isSubclass a a)
    ∧ (∀ a b c, (b = ClassName.object → h.Extends a b) → h.isSubclass b c →
      (h.isSubclass a b → h.isSubclass a c)
      ∧ ∀ args, h.isInheritor (.named a args) b → h.isInheritor (.named a args) c)
    ∧ ((∀ a b c, h.isSubclass a b → h.isSubclass b c → h.isSubclass a c) ↔ h.RootIsTop)
    ∧ ((∀ a args b c, h.isInheritor (.named a args) b → h.isSubclass b c →
        h.isInheritor (.named a args) c)
      ↔ h.RootIsTop)
  := by
  have hclasses : (∀ a b c, h.isSubclass a b → h.isSubclass b c → h.isSubclass a c)
      ↔ h.RootIsTop := by
    constructor
    · apply rootIsTop_of_isSubclass_trans
    · intro htop a b c
      apply htop.isSubclass_trans
  and_intros
  · apply isSubclass_refl
  · intro a b c hroot hbc
    simp only [isInheritor_named]
    constructor
    · intro hab
      apply isSubclass_trans hroot hab hbc
    · intro _ hab
      apply isSubclass_trans hroot hab hbc
  · apply hclasses
  · simp only [isInheritor_named]
    rw [← hclasses]
    constructor
    · intro htrans a b c
      apply htrans a [] b c
    · intro htrans a _ b c
      apply htrans a b c

/-- Nodes and trees that extend each other, and shapes that trees extend. -/
def cyclicShapes : Hierarchy :=
  declareAll {} [
    (ClassName.object, [ClassName.object]),
    ("com.example.Node", ["com.example.Tree"]),
    ("com.example.Tree", ["com.example.Node", "com.example.Shape"])]

/-- The root class may be declared with itself and classes may extend each other: nodes are
shapes, since they are trees. -/
theorem isSubclass_trans_iff_cyclic :
  cyclicShapes.RootIsTop ∧ cyclicShapes.isSubclass "com.example.Node" "com.example.Tree"
    ∧ cyclicShapes.isSubclass "com.example.Tree" "com.example.Shape"
    ∧ cyclicShapes.isSubclass "com.example.Node" "com.example.Shape"
    ∧ cyclicShapes.isInheritor (.named "com.example.Node" [.int]) "com.example.Shape"
  := by
  have htop : cyclicShapes.RootIsTop := by decide
  have htree : cyclicShapes.isSubclass "com.example.Node" "com.example.Tree" := by
    apply isSubclass_of_mem_edges
    decide
  have hshape : cyclicShapes.isSubclass "com.example.Tree" "com.example.Shape" := by
    apply isSubclass_of_mem_edges
    decide
  obtain ⟨-, -, hclasses, htypes⟩ := isSubclass_trans_iff cyclicShapes
  use htop, htree, hshape
  constructor
  · apply hclasses.mpr htop _ _ _ htree hshape
  · apply htypes.mpr htop _ _ _ _ _ hshape
    apply (isInheritor_named _).mpr htree

/-- Subtyping is not always transitive: if the root class is declared with a supertype, classes
that are not declared are subclasses of the root class but not of this supertype. -/
theorem not_all_isSubclass_trans :
  ¬ ∀ (ds : List (String × List String)) (a b c : String),
    (declareAll {} ds).isSubclass a b → (declareAll {} ds).isSubclass b c →
      (declareAll {} ds).isSubclass a c
  := by
  intro hall
  let ds := [(ClassName.object, ["com.example.Base"])]
  have hfresh : (declareAll {} ds).Fresh "com.example.Leaf" := by decide
  have hroot : (declareAll {} ds).isSubclass ClassName.object "com.example.Base" := by
    apply isSubclass_of_mem_edges
    decide
  have hbase := hall ds _ _ _ (hfresh.isSubclass_iff.mpr (Or.inl rfl)) hroot
  rw [hfresh.isSubclass_iff] at hbase
  revert hbase
  decide

end VirtualFields.Hierarchy
