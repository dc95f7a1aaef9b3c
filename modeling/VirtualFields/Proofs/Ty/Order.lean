import Mathlib.Data.Finset.Card
import VirtualFields.Proofs.Text.Bytes
import VirtualFields.Ty.ClassName
import VirtualFields.Ty.Order

/-!
# The order of types is total

One type precedes another by rank, by the bytes of its class name, by the first arguments that
differ, or by its elements (`Ty.Precedes`).  This order is total, antisymmetric and transitive,
and two types are compared as equal only if they are the same.  So a list of types has one
ordering, which does not depend on the order in which the types are listed, and in which equal
types are neighbours (`Ty.sort_unique`).
-/

namespace VirtualFields.Ty

/-- A type comes before another. -/
inductive Precedes : Ty → Ty → Prop where
  | primitive {p q} (h : Primitive.all.idxOf p < Primitive.all.idxOf q) :
      Precedes (.primitive p) (.primitive q)
  | primitive_named (p c args) : Precedes (.primitive p) (.named c args)
  | primitive_array (p e) : Precedes (.primitive p) (.array e)
  | className {c d} (h : Text.bytes c < Text.bytes d) (as bs) :
      Precedes (.named c as) (.named d bs)
  | arguments (c) {as bs} (h : List.Lex Precedes as bs) : Precedes (.named c as) (.named c bs)
  | named_array (c args e) : Precedes (.named c args) (.array e)
  | elements {d e} (h : Precedes d e) : Precedes (.array d) (.array e)

variable {s t u : Ty} {as bs cs : List Ty}

/-! ### Comparison and the order -/

/-- If the arguments of a list compare as equal only with themselves, so does the list. -/
theorem compareList_eq_iff (has : ∀ a ∈ as, ∀ t, compare a t = .eq ↔ a = t) :
  compareList as bs = .eq ↔ as = bs
  := by
  induction as generalizing bs with
  | nil =>
    cases bs with
    | nil => simp [compareList]
    | cons b bs => simp [compareList]
  | cons a as ih =>
    cases bs with
    | nil => simp [compareList]
    | cons b bs =>
      obtain ⟨ha, has⟩ := List.forall_mem_cons.mp has
      rw [compareList, Ordering.then_eq_eq, ha, ih has, List.cons.injEq]

/-- Only equal types are compared as equal. -/
theorem compare_eq_iff (s t : Ty) :
  compare s t = .eq ↔ s = t
  := by
  induction s using Ty.induction generalizing t with
  | primitive p =>
    cases t with
    | primitive q => cases p <;> cases q <;> decide
    | named | array => simp [compare]
  | named c as ih =>
    cases t with
    | named d bs =>
      rw [compare, Ordering.then_eq_eq, Std.compare_eq_iff_eq, compareList_eq_iff ih,
        named.injEq]
    | primitive | array => simp [compare]
  | array d ih =>
    cases t with
    | array e => rw [compare, ih, array.injEq]
    | primitive | named => simp [compare]

/-- If the arguments of a list come before the types that they precede, the list comes before
the lists that it precedes lexicographically. -/
theorem compareList_lt_iff (has : ∀ a ∈ as, ∀ t, compare a t = .lt ↔ Precedes a t) :
  compareList as bs = .lt ↔ List.Lex Precedes as bs
  := by
  induction as generalizing bs with
  | nil =>
    cases bs with
    | nil => simp [compareList]
    | cons b bs => simp [compareList]
  | cons a as ih =>
    cases bs with
    | nil => simp [compareList]
    | cons b bs =>
      obtain ⟨ha, has⟩ := List.forall_mem_cons.mp has
      rw [compareList, Ordering.then_eq_lt, ha, compare_eq_iff, ih has,
        List.cons_lex_cons_iff]

/-- A type is compared as less than the types that it precedes. -/
theorem compare_lt_iff (s t : Ty) :
  compare s t = .lt ↔ Precedes s t
  := by
  induction s using Ty.induction generalizing t with
  | primitive p =>
    cases t with
    | primitive q =>
      have hrank : Ord.compare p q = .lt ↔ Primitive.all.idxOf p < Primitive.all.idxOf q := by
        cases p <;> cases q <;> decide
      rw [compare, hrank]
      constructor
      · apply Precedes.primitive
      · intro h
        cases h with
        | primitive h => exact h
    | named c args => simp [compare, Precedes.primitive_named]
    | array e => simp [compare, Precedes.primitive_array]
  | named c as ih =>
    cases t with
    | primitive q =>
      simp only [compare, reduceCtorEq, false_iff]
      rintro ⟨⟩
    | named d bs =>
      rw [compare, Ordering.then_eq_lt, Text.compare_eq_lt_iff, Std.compare_eq_iff_eq,
        compareList_lt_iff ih]
      constructor
      · rintro (h | ⟨rfl, h⟩)
        · apply Precedes.className h
        · apply Precedes.arguments c h
      · intro h
        cases h with
        | className h =>
          left
          exact h
        | arguments _ h =>
          right
          exact ⟨rfl, h⟩
    | array e => simp [compare, Precedes.named_array]
  | array d ih =>
    cases t with
    | primitive | named =>
      simp only [compare, reduceCtorEq, false_iff]
      rintro ⟨⟩
    | array e =>
      rw [compare, ih]
      constructor
      · apply Precedes.elements
      · intro h
        cases h with
        | elements h => exact h

/-! ### Laws of the order -/

theorem compareList_swap (has : ∀ a ∈ as, ∀ t, compare t a = (compare a t).swap) :
  compareList bs as = (compareList as bs).swap
  := by
  induction as generalizing bs with
  | nil =>
    cases bs with
    | nil | cons => rfl
  | cons a as ih =>
    cases bs with
    | nil => rfl
    | cons b bs =>
      obtain ⟨ha, has⟩ := List.forall_mem_cons.mp has
      rw [compareList, compareList, Ordering.swap_then, ha, ih has]

/-- Two types that change places are compared the other way. -/
theorem compare_swap (s t : Ty) :
  compare t s = (compare s t).swap
  := by
  induction s using Ty.induction generalizing t with
  | primitive p =>
    cases t with
    | primitive q => cases p <;> cases q <;> rfl
    | named | array => rfl
  | named c as ih =>
    cases t with
    | named d bs =>
      rw [compare, compare, Ordering.swap_then, compareList_swap ih, Std.OrientedOrd.eq_swap]
    | primitive | array => rfl
  | array d ih =>
    cases t with
    | array e => rw [compare, compare, ih]
    | primitive | named => rfl

/-- If the arguments of a list precede what the types after them precede, so does the list. -/
theorem lex_trans (has : ∀ a ∈ as, ∀ {t u}, Precedes a t → Precedes t u → Precedes a u)
    (hab : List.Lex Precedes as bs) (hbc : List.Lex Precedes bs cs) :
  List.Lex Precedes as cs
  := by
  induction hab generalizing cs with
  | nil =>
    cases hbc with
    | cons | rel => apply List.Lex.nil
  | @cons a as bs hab ih =>
    obtain ⟨_, has⟩ := List.forall_mem_cons.mp has
    cases hbc with
    | cons h => apply List.Lex.cons (ih has h)
    | rel h => apply List.Lex.rel h
  | @rel a as b bs hab =>
    obtain ⟨ha, _⟩ := List.forall_mem_cons.mp has
    cases hbc with
    | cons h => apply List.Lex.rel hab
    | rel h => apply List.Lex.rel (ha hab h)

/-- A type precedes what the types after it precede. -/
theorem Precedes.trans (hst : Precedes s t) (htu : Precedes t u) :
  Precedes s u
  := by
  induction s using Ty.induction generalizing t u with
  | primitive p =>
    cases u with
    | primitive r =>
      cases hst with
      | primitive h =>
        cases htu with
        | primitive h' => apply Precedes.primitive (h.trans h')
      | primitive_named | primitive_array => cases htu
    | named => apply primitive_named
    | array => apply primitive_array
  | named c as ih =>
    cases hst with
    | className h =>
      cases htu with
      | className h' => apply className (List.lt_trans h h')
      | arguments => apply className h
      | named_array => apply named_array
    | arguments _ h =>
      cases htu with
      | className h' => apply className h'
      | arguments _ h' => apply arguments c (lex_trans (fun a ha => ih a ha) h h')
      | named_array => apply named_array
    | named_array =>
      cases htu with
      | elements => apply named_array
  | array d ih =>
    cases hst with
    | elements h =>
      cases htu with
      | elements h' => apply elements (ih h h')

instance : Std.OrientedCmp Ty.compare where
  eq_swap := compare_swap _ _

instance : Std.LawfulEqCmp Ty.compare where
  compare_self := (compare_eq_iff _ _).mpr rfl
  eq_of_compare := (compare_eq_iff _ _).mp

instance : Std.TransCmp Ty.compare where
  isLE_trans := by
    intro s t u hst htu
    rw [Ordering.isLE_iff_eq_lt_or_eq_eq, compare_lt_iff, compare_eq_iff] at hst htu ⊢
    rcases hst with hst | rfl
    · rcases htu with htu | rfl
      · left
        apply hst.trans htu
      · left
        apply hst
    · apply htu

theorem isLE_total (s t : Ty) :
  (compare s t).isLE ∨ (compare t s).isLE
  := by
  rw [compare_swap s t]
  cases compare s t with
  | lt | eq => simp
  | gt => simp

theorem isLE_antisymm (hst : (compare s t).isLE) (hts : (compare t s).isLE) :
  s = t
  := by
  rw [← compare_eq_iff]
  apply Std.OrientedCmp.isLE_antisymm hst hts

/-! ### Sorted lists -/

/-- A list of types is in ascending order. -/
def Ascending (ts : List Ty) : Prop :=
  ts.Pairwise fun s t => (compare s t).isLE

instance (ts : List Ty) : Decidable (Ascending ts) :=
  inferInstanceAs (Decidable (ts.Pairwise _))

theorem ascending_sort (ts : List Ty) :
  Ascending (sort ts)
  := by
  apply List.pairwise_mergeSort
  · intro s t u
    apply Std.TransCmp.isLE_trans
  · intro s t
    rw [Bool.or_eq_true]
    apply isLE_total

/-- Of the orderings of a list only one is ascending. -/
theorem Ascending.eq_of_perm (has : Ascending as) (hbs : Ascending bs) (h : as.Perm bs) :
  as = bs
  := by
  apply List.Perm.eq_of_pairwise _ has hbs h
  intro s t _ _
  apply isLE_antisymm

/-- In an ascending list every type but the first of each kind equals its neighbour. -/
theorem Ascending.equalNeighbours_add {ts : List Ty} (h : Ascending ts) :
  equalNeighbours ts + ts.toFinset.card = ts.length
  := by
  induction ts with
  | nil => rfl
  | cons s ts ih =>
    cases ts with
    | nil => rfl
    | cons t ts =>
      obtain ⟨hs, hts⟩ := List.pairwise_cons.mp h
      specialize ih hts
      rw [equalNeighbours, List.toFinset_cons, List.length_cons]
      by_cases heq : s = t
      · subst heq
        rw [if_pos rfl, Finset.insert_eq_of_mem (by simp)]
        omega
      · -- A type before its neighbour does not come again, since the rest is not before it.
        have hnew : s ∉ (t :: ts).toFinset := by
          rw [List.mem_toFinset, List.mem_cons]
          rintro (h | hmem)
          · exact heq h
          · apply heq
            apply isLE_antisymm (hs t List.mem_cons_self)
            apply (List.pairwise_cons.mp hts).1 s hmem
        rw [if_neg heq, Finset.card_insert_of_notMem hnew]
        omega

theorem equalNeighbours_sort (ts : List Ty) :
  equalNeighbours (sort ts) + ts.toFinset.card = ts.length
  := by
  have hperm := List.mergeSort_perm ts fun s t => (compare s t).isLE
  rw [← List.toFinset_eq_of_perm _ _ hperm, ← hperm.length_eq]
  apply (ascending_sort ts).equalNeighbours_add

/-- The order of types compares primitive types by declaration, class types after them by the
bytes of their names and then by their arguments lexicographically, and array types last by their
elements.  It is total, antisymmetric and transitive, and only equal types are compared as equal.
So every list of types has exactly one ordering in ascending order, the sorted list, which all
reorderings of the list share, and it has as many equal neighbours as the list has types more
than distinct ones. -/
theorem sort_unique :
  (∀ s t, compare s t = .lt ↔ Precedes s t)
    ∧ (∀ s t, compare s t = .eq ↔ s = t)
    ∧ (∀ s t, compare s t = .gt ↔ Precedes t s)
    ∧ (∀ s t, (compare s t).isLE ∨ (compare t s).isLE)
    ∧ (∀ s t, (compare s t).isLE → (compare t s).isLE → s = t)
    ∧ (∀ s t u, (compare s t).isLE → (compare t u).isLE → (compare s u).isLE)
    ∧ ∀ ts, (sort ts).Perm ts ∧ Ascending (sort ts)
      ∧ (∀ us : List Ty, us.Perm ts → Ascending us → us = sort ts)
      ∧ (∀ us : List Ty, us.Perm ts → sort us = sort ts)
      ∧ equalNeighbours (sort ts) = ts.length - ts.toFinset.card
  := by
  and_intros
  · apply compare_lt_iff
  · apply compare_eq_iff
  · intro s t
    rw [compare_swap t s, Ordering.swap_eq_gt, compare_lt_iff]
  · apply isLE_total
  · intro s t
    apply isLE_antisymm
  · intro s t u
    apply Std.TransCmp.isLE_trans
  · intro ts
    have hperm := List.mergeSort_perm ts fun s t => (compare s t).isLE
    and_intros
    · apply hperm
    · apply ascending_sort
    · intro us hus hasc
      apply hasc.eq_of_perm (ascending_sort ts) (hus.trans hperm.symm)
    · intro us hus
      apply (ascending_sort us).eq_of_perm (ascending_sort ts)
      apply (List.mergeSort_perm us _).trans (hus.trans hperm.symm)
    · have hcount := equalNeighbours_sort ts
      omega

/-- Lists of strings. -/
def listOfStrings : Ty :=
  .named "java.util.List" [.raw ClassName.string]

/-- Lists of arrays of strings. -/
def listOfStringArrays : Ty :=
  .named "java.util.List" [.array (.raw ClassName.string)]

/-- Types in no order, one of them twice. -/
def shuffledTypes : List Ty :=
  [.array .int, listOfStringArrays, listOfStrings, .int, listOfStringArrays]

/-- The same types in ascending order. -/
def orderedTypes : List Ty :=
  [.int, listOfStrings, listOfStringArrays, listOfStringArrays, .array .int]

/-- Lists of strings are before lists of arrays of strings, and both are between primitive types
and arrays.  Sorting brings the two equal types together, from either order of the list. -/
theorem sort_unique_shuffledTypes :
  orderedTypes.Perm shuffledTypes ∧ Ascending orderedTypes
    ∧ (compare .int listOfStrings).isLE
    ∧ (compare listOfStrings listOfStringArrays).isLE
    ∧ (compare .int listOfStringArrays).isLE
    ∧ sort shuffledTypes = orderedTypes
    ∧ sort orderedTypes = orderedTypes
    ∧ equalNeighbours (sort shuffledTypes) = 1
  := by
  have hperm : orderedTypes.Perm shuffledTypes := by decide +kernel
  have hasc : Ascending orderedTypes := by decide +kernel
  have hint : (compare .int listOfStrings).isLE := by decide +kernel
  have hlists : (compare listOfStrings listOfStringArrays).isLE := by decide +kernel
  obtain ⟨-, -, -, -, -, htrans, hsort⟩ := sort_unique
  obtain ⟨-, -, hunique, hsame, hequal⟩ := hsort shuffledTypes
  have hsorted := hunique orderedTypes hperm hasc
  use hperm, hasc, hint, hlists, htrans _ _ _ hint hlists, hsorted.symm
  constructor
  · rw [hsame orderedTypes hperm, hsorted]
  · rw [hequal]
    decide +kernel

end VirtualFields.Ty
