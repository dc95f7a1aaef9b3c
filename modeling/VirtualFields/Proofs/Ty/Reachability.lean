import Mathlib.Data.List.Basic
import VirtualFields.Proofs.Ty.Ancestry

/-!
# Deciding ancestry by search

A hierarchy built by declarations, in whatever order and whatever cycles they form, has a
class for a subclass of another exactly when the two are the same class, the other is the
root class, or a chain of declared supertypes leads from the one to the other.  The search
that decides this visits a class for every declared supertype at most, and the class it
begins with (`Hierarchy.isSubclass_declareAll_iff`).  A loop that keeps the visited classes
beside a stack finds the same answer within the same number of visits
(`Hierarchy.isSubclassWithin?_eq_some`).
-/

namespace VirtualFields.Hierarchy

variable {edges : List (String × String)} {work visited stack : List String}
  {ds : List (String × List String)} {c a : String}

/-! ### The number of visits -/

/-- The search from the classes of a worklist with a limit on the number of classes it
visits.  It has no answer if there are classes left to visit then. -/
def reachesWithin? (limit : Nat) (edges : List (String × String)) (work : List String)
    (ancestor : String) : Option Bool :=
  match limit, work with
  | _, [] => some false
  | 0, _ :: _ => none
  | limit + 1, c :: work =>
    if c = ancestor then some true
    else reachesWithin? limit (without edges c) (targets edges c ++ work) ancestor

/-- The edges that leave a class and those that do not are all edges. -/
theorem length_targets_add_length_without (edges : List (String × String)) (c : String) :
  (targets edges c).length + (without edges c).length = edges.length
  := by
  rw [targets, List.length_map, without, edges.length_eq_length_filter_add (·.1 = c)]
  simp

/-- A limit that allows a visit for every edge and every class of the worklist does not
change the answer of the search. -/
theorem reachesWithin?_eq_some {limit : Nat} (hlimit : edges.length + work.length ≤ limit) :
  reachesWithin? limit edges work a = some (reaches edges work a)
  := by
  induction limit generalizing edges work with
  | zero =>
    obtain rfl : work = [] := by
      rw [← List.length_eq_zero_iff]
      omega
    rw [reachesWithin?, reaches]
  | succ limit ih =>
    cases work with
    | nil => rw [reachesWithin?, reaches]
    | cons c work =>
      -- The visit takes the class from the worklist and turns its edges into classes.
      have hspent := length_targets_add_length_without edges c
      rw [List.length_cons] at hlimit
      have hrest : (without edges c).length + (targets edges c ++ work).length ≤ limit := by
        rw [List.length_append]
        omega
      rw [reachesWithin?, reaches, ih hrest]
      by_cases hc : c = a
      · simp [hc]
      · simp [hc]

/-! ### The search with a stack -/

/-- The classes of a list, pushed on a stack one after the other.  There is no stack if the
ancestor is among them. -/
def pushAll? (stack : List String) (ancestor : String) : List String → Option (List String)
  | [] => some stack
  | s :: supertypes =>
    if s = ancestor then none else pushAll? (s :: stack) ancestor supertypes

/-- The search with a stack and the classes visited so far, with a limit on the number of
classes it takes from the stack.  It passes over visited classes and ends at the ancestor
before pushing it.  It has no answer if there are classes left on the stack then. -/
def searchWithin? (limit : Nat) (edges : List (String × String)) (visited stack : List String)
    (ancestor : String) : Option Bool :=
  match limit, stack with
  | _, [] => some false
  | 0, _ :: _ => none
  | limit + 1, c :: stack =>
    if c ∈ visited then searchWithin? limit edges visited stack ancestor
    else
      match pushAll? stack ancestor (targets edges c) with
      | none => some true
      | some stack => searchWithin? limit edges (c :: visited) stack ancestor

/-- Whether a class is an ancestor or extends it, by the search with a stack. -/
def isSubclassWithin? (limit : Nat) (h : Hierarchy) (className ancestor : String) :
    Option Bool :=
  if className = ancestor ∨ ancestor = ClassName.object then some true
  else searchWithin? limit h.edges [] [className] ancestor

/-- The edges that leave the classes not visited so far. -/
def unvisited (edges : List (String × String)) (visited : List String) :
    List (String × String) :=
  edges.filter (·.1 ∉ visited)

theorem pushAll?_eq (stack : List String) (a : String) (ss : List String) :
  pushAll? stack a ss = if a ∈ ss then none else some (ss.reverse ++ stack)
  := by
  induction ss generalizing stack with
  | nil => simp [pushAll?]
  | cons s ss ih =>
    by_cases hs : s = a
    · simp [pushAll?, hs]
    · simp [pushAll?, hs, Ne.symm hs, ih]

theorem targets_unvisited (hc : c ∉ visited) :
  targets (unvisited edges visited) c = targets edges c
  := by
  rw [targets, targets, unvisited, List.filter_filter]
  congr 1
  apply List.filter_congr
  intro e _
  by_cases he : e.1 = c
  · simp [he, hc]
  · simp [he]

theorem without_unvisited :
  without (unvisited edges visited) c = unvisited edges (c :: visited)
  := by
  rw [without, unvisited, unvisited, List.filter_filter]
  apply List.filter_congr
  simp

/-- The edges that leave the unvisited classes are those that leave the next class and those
that are left after the visit. -/
theorem length_targets_add_length_unvisited (edges : List (String × String))
    (hc : c ∉ visited) :
  (targets edges c).length + (unvisited edges (c :: visited)).length
    = (unvisited edges visited).length
  := by
  rw [← length_targets_add_length_without (unvisited edges visited) c, targets_unvisited hc,
    without_unvisited]

theorem reaches_of_mem (ha : a ∈ work) :
  reaches edges work a
  := by
  rw [reaches_iff]
  use a, ha
  exact .refl

/-- A visited class leads to no other class by the edges that are left. -/
theorem reaches_cons_of_visited (hc : c ∈ visited) (hca : c ≠ a) :
  reaches (unvisited edges visited) (c :: stack) a = reaches (unvisited edges visited) stack a
  := by
  have hstay : ¬ Leads (unvisited edges visited) c a := by
    intro hleads
    apply hca
    apply hleads.eq_of_no_edges
    simp [unvisited, hc]
  rw [Bool.eq_iff_iff, reaches_iff, reaches_iff]
  simp [hstay]

/-- A visit turns the edges of a class into classes, in whatever order. -/
theorem reaches_cons_of_not_visited (hc : c ∉ visited) (hca : c ≠ a) :
  reaches (unvisited edges visited) (c :: stack) a
    = reaches (unvisited edges (c :: visited)) ((targets edges c).reverse ++ stack) a
  := by
  rw [reaches, targets_unvisited hc, without_unvisited, decide_eq_false hca, Bool.false_or,
    Bool.eq_iff_iff, reaches_iff, reaches_iff]
  simp

/-- A limit that allows a visit for every edge of an unvisited class and every class of the
stack does not change the answer of the search with a stack: it is that of the search that
spends the edges of the visited classes. -/
theorem searchWithin?_eq_some {limit : Nat} (ha : a ∉ stack)
    (hlimit : (unvisited edges visited).length + stack.length ≤ limit) :
  searchWithin? limit edges visited stack a = some (reaches (unvisited edges visited) stack a)
  := by
  induction limit generalizing visited stack with
  | zero =>
    obtain rfl : stack = [] := by
      rw [← List.length_eq_zero_iff]
      omega
    rw [searchWithin?, reaches]
  | succ limit ih =>
    cases stack with
    | nil => rw [searchWithin?, reaches]
    | cons c stack =>
      have hca : c ≠ a := (List.ne_of_not_mem_cons ha).symm
      have hstack : a ∉ stack := List.not_mem_of_not_mem_cons ha
      rw [List.length_cons] at hlimit
      rw [searchWithin?]
      by_cases hc : c ∈ visited
      · rw [if_pos hc, reaches_cons_of_visited hc hca]
        apply ih hstack
        omega
      · rw [if_neg hc, pushAll?_eq, reaches_cons_of_not_visited hc hca]
        by_cases htarget : a ∈ targets edges c
        · rw [if_pos htarget, reaches_of_mem]
          simp [htarget]
        · have hspent := length_targets_add_length_unvisited edges hc
          rw [if_neg htarget]
          apply ih
          · simp [htarget, hstack]
          · rw [List.length_append, List.length_reverse]
            omega

/-- The search with a stack finds whether a class is an ancestor or extends it after one visit
for the class and one for each edge. -/
theorem isSubclassWithin?_eq_some {h : Hierarchy} {limit : Nat}
    (hlimit : h.edges.length + 1 ≤ limit) :
  isSubclassWithin? limit h c a = some (h.isSubclass c a)
  := by
  by_cases hnear : c = a ∨ a = ClassName.object
  · have hsub : h.isSubclass c a := by
      rw [isSubclass_iff]
      rcases hnear with rfl | hobject
      · exact Or.inr .refl
      · exact Or.inl hobject
    rw [isSubclassWithin?, if_pos hnear, hsub]
  · obtain ⟨hc, hobject⟩ := not_or.mp hnear
    have hall : unvisited h.edges [] = h.edges := by simp [unvisited]
    have hsearch : searchWithin? limit h.edges [] [c] a
        = some (reaches (unvisited h.edges []) [c] a) := by
      apply searchWithin?_eq_some
      · simpa using Ne.symm hc
      · rwa [hall]
    rw [isSubclassWithin?, if_neg hnear, hsearch, hall, isSubclass]
    simp [hobject]

/-! ### Declared chains -/

/-- Some declaration of a class lists another as a direct supertype. -/
def DeclaredIn (ds : List (String × List String)) (c s : String) : Prop :=
  ∃ d ∈ ds, d.1 = c ∧ s ∈ d.2

theorem declarations_declareAll (h : Hierarchy) (ds : List (String × List String)) :
  (h.declareAll ds).declarations = h.declarations ++ ds
  := by
  induction ds generalizing h with
  | nil => exact (List.append_nil _).symm
  | cons d ds ih =>
    apply (ih (h.declare d.1 d.2)).trans
    rw [declare, List.append_assoc]
    rfl

/-- The edges of a hierarchy are the supertypes that its declarations list. -/
theorem mem_edges_declareAll :
  (c, a) ∈ (declareAll {} ds).edges ↔ DeclaredIn ds c a
  := by
  rw [mem_edges, declarations_declareAll]
  rfl

/-- A class of a hierarchy that is built by declarations is a subclass of another exactly
when it is the same class, the other is the root class, or a nonempty chain of declared
supertypes leads from it to the other.  The search for the chain is done after one visit
for the class and one for each declared supertype, and so is the search with a stack. -/
theorem isSubclass_declareAll_iff (ds : List (String × List String)) (c a : String) :
  ((declareAll {} ds).isSubclass c a
      ↔ c = a ∨ a = ClassName.object ∨ Relation.TransGen (DeclaredIn ds) c a)
    ∧ reachesWithin? ((declareAll {} ds).edges.length + 1) (declareAll {} ds).edges [c] a
      = some (reaches (declareAll {} ds).edges [c] a)
    ∧ isSubclassWithin? ((declareAll {} ds).edges.length + 1) (declareAll {} ds) c a
      = some ((declareAll {} ds).isSubclass c a)
  := by
  and_intros
  · have hchain : (declareAll {} ds).Extends c a
        ↔ c = a ∨ Relation.TransGen (DeclaredIn ds) c a := by
      simp only [Extends, Leads, mem_edges_declareAll]
      rw [Relation.reflTransGen_iff_eq_or_transGen, eq_comm]
    rw [isSubclass_iff, hchain, or_left_comm]
  · apply reachesWithin?_eq_some
    exact Nat.le_refl _
  · apply isSubclassWithin?_eq_some
    exact Nat.le_refl _

end VirtualFields.Hierarchy
