import VirtualFields.Proofs.Registry.Overlap
import VirtualFields.Proofs.Ty.Ancestry

/-!
# Extensions of the standard library

In the hierarchy of the standard library every class belongs to at most one family, and
the boxing classes and optional containers belong to none.  This remains so when new
classes are declared one after the other, in whatever number, as long as each of them is
new and has supertypes of at most one family (`Hierarchy.RespectsFamilies`).  In such a
hierarchy the registry has at most one match for a type and for an accessor
(`VirtualField.matches_unique`).
-/

namespace VirtualFields

/-- The classes that the registry knows by name. -/
def ClassName.known : List String :=
  object :: (familyRoots ++ wrappers ++ optionals)

namespace Hierarchy

/-- The roots of the families that some class of a list belongs to. -/
def familiesOf (h : Hierarchy) (classes : List String) : List String :=
  ClassName.familyRoots.filter fun a => classes.any (h.isSubclass · a)

/-- The classes of a list belong to at most one family. -/
def OneFamily (h : Hierarchy) (classes : List String) : Prop :=
  ∀ a ∈ h.familiesOf classes, ∀ b ∈ h.familiesOf classes, a = b

theorem oneFamily_of_eq {h : Hierarchy} {classes : List String} {a : String}
    (heq : h.familiesOf classes = [a]) :
  h.OneFamily classes
  := by
  simp [OneFamily, heq]

/-- Each declaration is of a class that is fresh at that time and unknown to the registry,
and its supertypes belong to at most one family. -/
def RespectsFamilies (h : Hierarchy) : List (String × List String) → Prop
  | [] => True
  | (x, supertypes) :: ds =>
    h.Fresh x ∧ x ∉ ClassName.known ∧ h.OneFamily supertypes
      ∧ (h.declare x supertypes).RespectsFamilies ds

/-! ### The standard library -/

/-- The classes of the standard library that belong to a family, each with the root of its
family. -/
def jdkFamilies : List (String × String) :=
  [(ClassName.string, ClassName.string)]
    ++ [ClassName.collection, "java.util.List", "java.util.Set", "java.util.SortedSet",
      "java.util.NavigableSet", "java.util.Queue", "java.util.Deque",
      "java.util.AbstractCollection", "java.util.AbstractList", "java.util.ArrayList",
      "java.util.LinkedList", "java.util.ArrayDeque", "java.util.AbstractSet",
      "java.util.HashSet", "java.util.LinkedHashSet", "java.util.TreeSet"].map
        (·, ClassName.collection)
    ++ [ClassName.map, "java.util.SortedMap", "java.util.NavigableMap",
      "java.util.AbstractMap", "java.util.HashMap", "java.util.LinkedHashMap",
      "java.util.TreeMap"].map (·, ClassName.map)

/-- Every class of the standard library that is a subclass of a family root is listed with
it. -/
theorem mem_jdkFamilies {c a : String} (ha : a ∈ ClassName.familyRoots)
    (hsub : jdk.isSubclass c a) :
  (c, a) ∈ jdkFamilies
  := by
  have hroot : ∀ a ∈ ClassName.familyRoots, a ≠ ClassName.object ∧ (a, a) ∈ jdkFamilies := by
    decide +kernel
  have hpass : ∀ a ∈ ClassName.familyRoots, ∀ e ∈ jdk.edges,
      (e.2, a) ∈ jdkFamilies → (e.1, a) ∈ jdkFamilies := by
    decide +kernel
  have hext := ((isSubclass_iff jdk c a).mp hsub).resolve_left (hroot a ha).1
  exact hext.inherits (P := fun c => (c, a) ∈ jdkFamilies) (hpass a ha) (hroot a ha).2

/-- No class of the standard library overlaps. -/
theorem not_overlaps_jdk (c : String) :
  ¬ jdk.Overlaps c
  := by
  rintro ⟨a, ha, hca, hsecond⟩
  have hmem := mem_jdkFamilies ha hca
  rcases hsecond with ⟨b, hb, hba, hcb⟩ | hholder
  · have hone : ∀ p ∈ jdkFamilies, ∀ q ∈ jdkFamilies, p.1 = q.1 → p.2 = q.2 := by
      decide +kernel
    exact hba (hone _ (mem_jdkFamilies hb hcb) _ hmem rfl)
  · have hnone : ∀ p ∈ jdkFamilies, p.1 ∉ ClassName.wrappers ∧ p.1 ∉ ClassName.optionals := by
      decide +kernel
    have hno := hnone _ hmem
    exact hholder.elim hno.1 hno.2

/-! ### Declarations -/

variable {h : Hierarchy} {x : String} {supertypes : List String}

/-- An unknown fresh class belongs, once it is declared, to the families of its supertypes
alone. -/
theorem mem_familiesOf_of_isSubclass (hfresh : h.Fresh x) (hunknown : x ∉ ClassName.known)
    {a : String} (ha : a ∈ ClassName.familyRoots)
    (hsub : (h.declare x supertypes).isSubclass x a) :
  a ∈ h.familiesOf supertypes
  := by
  have hroot : ∀ a ∈ ClassName.familyRoots, a ≠ ClassName.object ∧ a ∈ ClassName.known := by
    decide +kernel
  rcases (isSubclass_declare hfresh).mp hsub with hold | ⟨-, hnew⟩
  · rcases hfresh.isSubclass_iff.mp hold with hobject | rfl
    · exact absurd hobject (hroot a ha).1
    · exact absurd (hroot x ha).2 hunknown
  · exact List.mem_filter.mpr ⟨ha, List.any_eq_true.mpr hnew⟩

/-- If no class overlaps, none does after the declaration of an unknown fresh class with
supertypes of at most one family. -/
theorem not_overlaps_declare (hno : ∀ c, ¬ h.Overlaps c) (hfresh : h.Fresh x)
    (hunknown : x ∉ ClassName.known) (hone : h.OneFamily supertypes) (c : String) :
  ¬ (h.declare x supertypes).Overlaps c
  := by
  by_cases hc : c = x
  · subst hc
    rintro ⟨a, ha, hca, hsecond⟩
    have hsa := mem_familiesOf_of_isSubclass hfresh hunknown ha hca
    rcases hsecond with ⟨b, hb, hba, hcb⟩ | hholder
    · have hsb := mem_familiesOf_of_isSubclass hfresh hunknown hb hcb
      exact hba (hone b hsb a hsa)
    · apply hunknown
      apply List.mem_cons_of_mem
      rw [ClassName.familyRoots.append_assoc]
      apply List.mem_append_right
      exact List.mem_append.mpr hholder
  · have hkept : ∀ a, (h.declare x supertypes).isSubclass c a ↔ h.isSubclass c a := by
      intro a
      rw [isSubclass_declare hfresh]
      exact or_iff_left fun hnew => hc hnew.1
    simp only [Overlaps, hkept]
    exact hno c

/-- No class overlaps after declarations that respect the families, if none did before. -/
theorem not_overlaps_declareAll {ds : List (String × List String)}
    (hno : ∀ c, ¬ h.Overlaps c) (hds : h.RespectsFamilies ds) (c : String) :
  ¬ (h.declareAll ds).Overlaps c
  := by
  induction ds generalizing h with
  | nil => exact hno c
  | cons d ds ih =>
    obtain ⟨hfresh, hunknown, hone, hrest⟩ := hds
    exact ih (not_overlaps_declare hno hfresh hunknown hone) hrest

end Hierarchy

namespace VirtualField

/-- In every extension of the standard library whose declarations respect the families, the
objects of a type have at most one virtual field and a member reads at most one, and the
registry answers with this field, if there is one. -/
theorem matches_unique (ds : List (String × List String))
    (hds : Hierarchy.jdk.RespectsFamilies ds) :
  let h := Hierarchy.jdk.declareAll ds
  (∀ (t : Ty) (f g : VirtualField), f.exposedBy h t → g.exposedBy h t → f = g)
    ∧ (∀ (m : Member) (f g : VirtualField), f.readBy h m → g.readBy h m → f = g)
    ∧ (∀ (t : Ty) (f : VirtualField), ofType? h t = some f ↔ f.exposedBy h t)
    ∧ (∀ (e : Element) (f : VirtualField), ofAccessor? h e = some f
        ↔ ∃ m, e.member? = some m ∧ f.readBy h m)
  := by
  intro h
  have hno : ∀ c, ¬ h.Overlaps c :=
    Hierarchy.not_overlaps_declareAll Hierarchy.not_overlaps_jdk hds
  have htype : ∀ (t : Ty) (f g : VirtualField), f.exposedBy h t → g.exposedBy h t → f = g :=
    fun t => exposedBy_unique fun c _ _ => hno c
  have hmember : ∀ (m : Member) (f g : VirtualField), f.readBy h m → g.readBy h m → f = g := by
    intro m
    apply readBy_unique
    intro hm
    obtain ⟨c, hc⟩ := hm.overlaps
    exact hno c hc
  use htype, hmember
  constructor
  · intro t f
    exact find?_all_eq_some_iff_of_unique (htype t) f
  · intro e f
    simp only [ofAccessor?, Option.bind_eq_some_iff,
      find?_all_eq_some_iff_of_unique (hmember _)]

/-- Declarations of a class of bags, which names itself among its supertypes, and of a class
of numbered bags, one of whose supertypes is never declared. -/
def bags : List (String × List String) := [
  ("com.example.Bag", [ClassName.collection, "com.example.Bag"]),
  ("com.example.NumberedBag", ["com.example.Bag", "java.lang.Integer", "com.example.Tagged"])]

/-- A numbered bag has a size and no other virtual field, in particular not the primitive of
the boxing class it extends. -/
theorem matches_unique_bags :
  Hierarchy.jdk.RespectsFamilies bags
    ∧ ∀ f : VirtualField,
      f.exposedBy (Hierarchy.jdk.declareAll bags) (.raw "com.example.NumberedBag")
        ↔ f = collectionSize
  := by
  have hbag : Hierarchy.jdk.familiesOf [ClassName.collection, "com.example.Bag"]
      = [ClassName.collection] := by
    cbv
  have hnumbered : (Hierarchy.jdk.declareAll (bags.take 1)).familiesOf
      ["com.example.Bag", "java.lang.Integer", "com.example.Tagged"]
      = [ClassName.collection] := by
    cbv
  have hds : Hierarchy.jdk.RespectsFamilies bags := by
    and_intros
    · decide +kernel
    · decide +kernel
    · apply Hierarchy.oneFamily_of_eq hbag
    · decide +kernel
    · decide +kernel
    · apply Hierarchy.oneFamily_of_eq hnumbered
    · trivial
  use hds
  obtain ⟨-, -, htype, -⟩ := matches_unique bags hds
  intro f
  rw [← htype]
  have hsize : ofType? (Hierarchy.jdk.declareAll bags) (.raw "com.example.NumberedBag")
      = some collectionSize := by
    cbv
  rw [hsize, Option.some.injEq]
  exact eq_comm

end VirtualField

end VirtualFields
