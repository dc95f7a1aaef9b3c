import Mathlib.Logic.Relation
import VirtualFields.Ty.Hierarchy

/-!
# Ancestors of classes

`Hierarchy.Extends h` relates a class to all classes that a chain of declared supertypes
leads to, and `Hierarchy.isSubclass` decides this relation, whatever cycles the
declarations form (`Hierarchy.isSubclass_iff`).  A search may forget the edges of a class
it has visited: a chain that returns to the class can be cut short there
(`Hierarchy.Leads.avoids_or_leaves`).  Declaring a class that no declaration mentions
keeps the ancestors of all other classes, and gives the new class the ancestors of its
supertypes (`Hierarchy.isSubclass_declare`).
-/

namespace VirtualFields.Hierarchy

/-! ### Chains of edges -/

@[simp]
theorem mem_targets {edges : List (String × String)} {c s : String} :
  s ∈ targets edges c ↔ (c, s) ∈ edges
  := by
  simp [targets]

@[simp]
theorem mem_without {edges : List (String × String)} {c d s : String} :
  (d, s) ∈ without edges c ↔ (d, s) ∈ edges ∧ d ≠ c
  := by
  simp [without]

/-- A chain of edges, which may be empty, leads from a class to another. -/
def Leads (edges : List (String × String)) : String → String → Prop :=
  Relation.ReflTransGen fun c s => (c, s) ∈ edges

namespace Leads

variable {edges edges' : List (String × String)} {b c a : String}

/-- More edges lead to more classes. -/
theorem mono (hsub : ∀ e ∈ edges, e ∈ edges') (h : Leads edges b a) :
  Leads edges' b a
  := Relation.ReflTransGen.mono (fun c s => hsub (c, s)) b a h

/-- A chain that begins at a class without edges ends there. -/
theorem eq_of_no_edges (hnone : ∀ s, (b, s) ∉ edges) (h : Leads edges b a) :
  b = a
  := by
  rcases Relation.ReflTransGen.cases_head h with heq | ⟨s, hs, -⟩
  · exact heq
  · exact absurd hs (hnone s)

/-- Where a chain leads, another chain leads that either avoids the edges of a class
altogether or begins at a target of the class and avoids its edges from there. -/
theorem avoids_or_leaves (h : Leads edges b a) (c : String) :
  Leads (without edges c) b a ∨ ∃ s ∈ targets edges c, Leads (without edges c) s a
  := by
  induction h using Relation.ReflTransGen.head_induction_on with
  | refl => exact Or.inl .refl
  | @head d s hedge _ ih =>
    rcases ih with havoids | hleaves
    · by_cases hd : d = c
      · right
        use s, mem_targets.mpr (hd ▸ hedge)
      · left
        exact .head (mem_without.mpr ⟨hedge, hd⟩) havoids
    · exact Or.inr hleaves

end Leads

/-! ### The search -/

/-- The search reaches an ancestor exactly when a chain of edges leads there from a class
of the worklist. -/
theorem reaches_iff (edges : List (String × String)) (work : List String) (a : String) :
  reaches edges work a ↔ ∃ c ∈ work, Leads edges c a
  := by
  induction edges, work using reaches.induct with
  | case1 edges => simp [reaches]
  | case2 edges c work ih =>
    have hspent : ∀ e ∈ without edges c, e ∈ edges := fun _ he => (List.mem_filter.mp he).1
    rw [reaches, Bool.or_eq_true, decide_eq_true_iff, ih]
    constructor
    · rintro (rfl | ⟨s, hs, hleads⟩)
      · use c, List.mem_cons_self
        exact .refl
      · rcases List.mem_append.mp hs with htarget | hwork
        · use c, List.mem_cons_self
          exact .head (mem_targets.mp htarget) (hleads.mono hspent)
        · use s, List.mem_cons_of_mem c hwork, hleads.mono hspent
    · rintro ⟨d, hd, hleads⟩
      rcases hleads.avoids_or_leaves c with havoids | ⟨s, hs, hleaves⟩
      · rcases List.mem_cons.mp hd with rfl | hwork
        · left
          apply havoids.eq_of_no_edges
          simp
        · right
          use d, List.mem_append_right _ hwork
      · right
        use s, List.mem_append_left _ hs

/-- A class extends another when a chain of declared supertypes leads to it.  Every class
extends itself. -/
def Extends (h : Hierarchy) : String → String → Prop :=
  Leads h.edges

/-- A class is a subclass of the classes it extends and of the root class. -/
theorem isSubclass_iff (h : Hierarchy) (c a : String) :
  h.isSubclass c a ↔ a = ClassName.object ∨ h.Extends c a
  := by
  simp [isSubclass, reaches_iff, Extends]

/-! ### Declarations -/

variable {h : Hierarchy} {x c a : String} {supertypes : List String}

theorem mem_edges :
  (c, a) ∈ h.edges ↔ ∃ d ∈ h.declarations, d.1 = c ∧ a ∈ d.2
  := by
  simp only [edges, List.mem_flatMap, List.mem_map, Prod.mk.injEq]
  constructor
  · rintro ⟨d, hd, s, hs, hc, rfl⟩
    use d, hd, hc
  · rintro ⟨d, hd, hc, ha⟩
    use d, hd, a, ha, hc

theorem mem_edges_declare :
  (c, a) ∈ (h.declare x supertypes).edges ↔ (c, a) ∈ h.edges ∨ c = x ∧ a ∈ supertypes
  := by
  simp only [mem_edges, declare, List.mem_append, List.mem_singleton, or_and_right,
    exists_or, exists_eq_left, eq_comm (a := x)]

/-- The hierarchy with further declarations, each of a class and its supertypes. -/
def declareAll (h : Hierarchy) (ds : List (String × List String)) : Hierarchy :=
  ds.foldl (fun h d => h.declare d.1 d.2) h

/-- A class is fresh if it is neither declared nor mentioned as a supertype. -/
def Fresh (h : Hierarchy) (x : String) : Prop :=
  ∀ d ∈ h.declarations, d.1 ≠ x ∧ x ∉ d.2

instance (h : Hierarchy) (x : String) : Decidable (h.Fresh x) :=
  inferInstanceAs (Decidable (∀ d ∈ h.declarations, _))

/-- No edge leads to a fresh class. -/
theorem Fresh.not_mem_edges (hx : h.Fresh x) :
  (c, x) ∉ h.edges
  := by
  rw [mem_edges]
  rintro ⟨d, hd, -, hmem⟩
  exact (hx d hd).2 hmem

/-- Once a fresh class is declared, the classes extended before are extended still, and the
new class extends in addition what its supertypes extend. -/
theorem extends_declare (hx : h.Fresh x) :
  (h.declare x supertypes).Extends c a
    ↔ h.Extends c a ∨ c = x ∧ ∃ s ∈ supertypes, h.Extends s a
  := by
  constructor
  · intro hext
    induction hext using Relation.ReflTransGen.head_induction_on with
    | refl => exact Or.inl .refl
    | @head d s hedge _ ih =>
      rcases mem_edges_declare.mp hedge with hold | ⟨rfl, hs⟩
      · rcases ih with hext | ⟨rfl, -⟩
        · exact Or.inl (.head hold hext)
        · exact absurd hold hx.not_mem_edges
      · right
        use rfl
        rcases ih with hext | ⟨-, hnew⟩
        · use s
        · exact hnew
  · have hkept : ∀ e ∈ h.edges, e ∈ (h.declare x supertypes).edges :=
      fun _ he => mem_edges_declare.mpr (Or.inl he)
    rintro (hext | ⟨rfl, s, hs, hext⟩)
    · exact hext.mono hkept
    · apply Relation.ReflTransGen.head (mem_edges_declare.mpr (Or.inr ⟨rfl, hs⟩))
      exact hext.mono hkept

/-- Once a fresh class is declared, the other classes are subclasses of the same classes as
before, and the new class is a subclass of what its supertypes are subclasses of. -/
theorem isSubclass_declare (hx : h.Fresh x) :
  (h.declare x supertypes).isSubclass c a
    ↔ h.isSubclass c a ∨ c = x ∧ ∃ s ∈ supertypes, h.isSubclass s a
  := by
  simp only [isSubclass_iff, extends_declare hx]
  by_cases ha : a = ClassName.object
  · simp [ha]
  · simp [ha]

/-- A fresh class is a subclass of itself and of the root class alone. -/
theorem Fresh.isSubclass_iff (hx : h.Fresh x) :
  h.isSubclass x a ↔ a = ClassName.object ∨ x = a
  := by
  rw [Hierarchy.isSubclass_iff]
  apply or_congr_right
  constructor
  · intro hext
    apply hext.eq_of_no_edges
    intro s hs
    obtain ⟨d, hd, hdx, -⟩ := mem_edges.mp hs
    exact (hx d hd).1 hdx
  · rintro rfl
    exact .refl

/-- What a class has of its supertypes, it has of all classes it extends. -/
theorem Extends.inherits {P : String → Prop} (hext : h.Extends c a)
    (hpass : ∀ e ∈ h.edges, P e.2 → P e.1) (ha : P a) :
  P c
  := by
  induction hext using Relation.ReflTransGen.head_induction_on with
  | refl => exact ha
  | head hedge _ ih => exact hpass _ hedge ih

end VirtualFields.Hierarchy
