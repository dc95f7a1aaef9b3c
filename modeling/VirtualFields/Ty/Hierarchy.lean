import VirtualFields.Ty.Basic
import VirtualFields.Ty.ClassName

/-!
# Class hierarchies

A class hierarchy is a list of declarations, each naming a class and some of its direct
supertypes.  Several declarations of one class add up, a supertype need not be declared,
and declarations may form cycles.  `Hierarchy.isSubclass` tells whether one class extends
another, by a search along the declared edges that uses the edges of every class at most
once; `Hierarchy.jdk` holds the strings, collections and maps of the standard library.
-/

namespace VirtualFields

/-- A class hierarchy, given by the declarations of direct supertypes. -/
structure Hierarchy where
  declarations : List (String × List String) := []

namespace Hierarchy

/-- The hierarchy with one more declaration. -/
def declare (h : Hierarchy) (className : String) (supertypes : List String) : Hierarchy :=
  ⟨h.declarations ++ [(className, supertypes)]⟩

/-- The declared edges, from a class to a direct supertype. -/
def edges (h : Hierarchy) : List (String × String) :=
  h.declarations.flatMap fun (className, supertypes) => supertypes.map (className, ·)

/-- The targets of the edges that leave a class. -/
def targets (edges : List (String × String)) (className : String) : List String :=
  (edges.filter (·.1 = className)).map (·.2)

/-- The edges that leave other classes. -/
def without (edges : List (String × String)) (className : String) : List (String × String) :=
  edges.filter (·.1 ≠ className)

theorem length_without_le (edges : List (String × String)) (className : String) :
  (without edges className).length ≤ edges.length
  := List.length_filter_le _ _

/-- A class without edges of its own leaves the edges as they are. -/
theorem without_eq_self {edges : List (String × String)} {className : String}
    (h : (without edges className).length = edges.length) :
  without edges className = edges ∧ targets edges className = []
  := by
  have hne := List.length_filter_eq_length_iff.mp h
  constructor
  · exact List.filter_eq_self.mpr hne
  · simp only [targets, List.map_eq_nil_iff, List.filter_eq_nil_iff]
    intro e he
    simpa using hne e he

/-- Whether the search from the classes of a worklist reaches an ancestor.  Once a class
is visited its edges are spent, so the search ends on cyclic edges too. -/
def reaches (edges : List (String × String)) (work : List String) (ancestor : String) : Bool :=
  match work with
  | [] => false
  | c :: work =>
    c = ancestor || reaches (without edges c) (targets edges c ++ work) ancestor
  termination_by (edges.length, work.length)
  decreasing_by
    rcases Nat.lt_or_eq_of_le (length_without_le edges c) with hlt | heq
    · exact Prod.Lex.left _ _ hlt
    · obtain ⟨he, ht⟩ := without_eq_self heq
      rw [he, ht]
      apply Prod.Lex.right
      simp

/-- Whether a class is an ancestor or extends it.  Every class extends the root class. -/
def isSubclass (h : Hierarchy) (className ancestor : String) : Bool :=
  ancestor = ClassName.object || reaches h.edges [className] ancestor

/-- Whether a type is a class type whose class is an ancestor or extends it. -/
def isInheritor (h : Hierarchy) (t : Ty) (ancestor : String) : Bool :=
  t.className?.any (h.isSubclass · ancestor)

@[simp]
theorem isInheritor_raw (h : Hierarchy) (className ancestor : String) :
  h.isInheritor (.raw className) ancestor = h.isSubclass className ancestor
  := rfl

/-- The strings, collections, maps and boxing classes of the standard library. -/
def jdk : Hierarchy where
  declarations := [
    (ClassName.string, [ClassName.charSequence, ClassName.comparable]),
    (ClassName.collection, [ClassName.iterable]),
    ("java.util.List", [ClassName.collection]),
    ("java.util.Set", [ClassName.collection]),
    ("java.util.SortedSet", ["java.util.Set"]),
    ("java.util.NavigableSet", ["java.util.SortedSet"]),
    ("java.util.Queue", [ClassName.collection]),
    ("java.util.Deque", ["java.util.Queue"]),
    ("java.util.AbstractCollection", [ClassName.collection]),
    ("java.util.AbstractList", ["java.util.AbstractCollection", "java.util.List"]),
    ("java.util.ArrayList", ["java.util.AbstractList"]),
    ("java.util.LinkedList", ["java.util.AbstractList", "java.util.Deque"]),
    ("java.util.ArrayDeque", ["java.util.Deque"]),
    ("java.util.AbstractSet", ["java.util.AbstractCollection", "java.util.Set"]),
    ("java.util.HashSet", ["java.util.AbstractSet"]),
    ("java.util.LinkedHashSet", ["java.util.HashSet"]),
    ("java.util.TreeSet", ["java.util.AbstractSet", "java.util.NavigableSet"]),
    ("java.util.SortedMap", [ClassName.map]),
    ("java.util.NavigableMap", ["java.util.SortedMap"]),
    ("java.util.AbstractMap", [ClassName.map]),
    ("java.util.HashMap", ["java.util.AbstractMap"]),
    ("java.util.LinkedHashMap", ["java.util.HashMap"]),
    ("java.util.TreeMap", ["java.util.AbstractMap", "java.util.NavigableMap"])]
    ++ Primitive.all.map fun p => (p.wrapper, [ClassName.comparable])

end Hierarchy

end VirtualFields
