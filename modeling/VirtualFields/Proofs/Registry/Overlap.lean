import Mathlib.Data.List.Permutation
import VirtualFields.Registry.Matching

/-!
# Overlaps of the registry

The registry answers with the first virtual field that matches, so its answer depends on
the order of the fields as soon as two of them match.  Whatever the class hierarchy, two
virtual fields are read by one accessor only if it is the method `size` of a class that is
both a collection and a map, and two are exposed by one type only if its class is a
subclass of two family roots, or of one of them while it holds a value itself
(`VirtualField.matches_overlap_iff`).  Elsewhere the answer is the only match.
-/

namespace VirtualFields

namespace ClassName

/-- The classes whose subclasses have a virtual field. -/
def familyRoots : List String := [string, collection, map]

/-- The boxing classes. -/
def wrappers : List String := Primitive.all.map Primitive.wrapper

/-- The optional containers. -/
def optionals : List String := OptionalClass.all.map OptionalClass.className

end ClassName

namespace Hierarchy

/-- A class of one family belongs to another family as well, or holds a value itself. -/
def Overlaps (h : Hierarchy) (c : String) : Prop :=
  ∃ a ∈ ClassName.familyRoots, h.isSubclass c a
    ∧ ((∃ b ∈ ClassName.familyRoots, b ≠ a ∧ h.isSubclass c b)
      ∨ c ∈ ClassName.wrappers ∨ c ∈ ClassName.optionals)

/-- A member is the method `size` of a class that is both a collection and a map. -/
def ReadsTwoSizes (h : Hierarchy) (m : Member) : Prop :=
  ∃ d c, m = .method d ∧ d.name = "size" ∧ d.parameters = [] ∧ d.owner = .named c
    ∧ h.isSubclass c ClassName.collection ∧ h.isSubclass c ClassName.map

/-- The class of a member that reads two sizes overlaps. -/
theorem ReadsTwoSizes.overlaps {h : Hierarchy} {m : Member} (hm : h.ReadsTwoSizes m) :
  ∃ c, h.Overlaps c
  := by
  obtain ⟨d, c, -, -, -, -, hcollection, hmap⟩ := hm
  use c, ClassName.collection, by decide, hcollection
  left
  use ClassName.map, by decide, by decide

end Hierarchy

theorem Ty.className?_eq_some_iff {t : Ty} {c : String} :
  t.className? = some c ↔ ∃ args, t = .named c args
  := by
  cases t with
  | _ => simp [className?]

namespace VirtualField

/-! ### The order of the registry -/

/-- The place of a virtual field in the order of the registry. -/
def rank (f : VirtualField) : Nat := all.idxOf f

theorem rank_injective :
  Function.Injective rank
  := by
  intro f g h
  exact (List.idxOf_inj (mem_all f)).mp h

theorem getElem_rank (f : VirtualField) :
  ∃ h : f.rank < all.length, all[f.rank] = f
  := by
  use List.idxOf_lt_length_of_mem (mem_all f)
  apply List.getElem_idxOf

theorem rank_getElem (i : Nat) (h : i < all.length) :
  rank all[i] = i
  := by
  have hnodup : all.Nodup := by decide
  exact hnodup.idxOf_getElem i h

/-- The registry finds the first virtual field that passes a test. -/
theorem find?_all_eq_some_iff (p : VirtualField → Bool) (f : VirtualField) :
  all.find? p = some f ↔ p f ∧ ∀ g, g.rank < f.rank → ¬ p g
  := by
  rw [List.find?_eq_some_iff_getElem]
  apply and_congr_right
  intro _
  constructor
  · rintro ⟨i, hi, rfl, hbefore⟩ g hlt
    rw [rank_getElem] at hlt
    obtain ⟨_, hg⟩ := g.getElem_rank
    simpa [hg] using hbefore g.rank hlt
  · intro hbefore
    obtain ⟨hlen, hf⟩ := f.getElem_rank
    use f.rank, hlen, hf
    intro j hj
    have hrank := rank_getElem j (Nat.lt_trans hj hlen)
    simpa using hbefore all[j] (hrank.symm ▸ hj)

/-- The registry finds the virtual field that passes a test, if only one can. -/
theorem find?_all_eq_some_iff_of_unique {p : VirtualField → Bool}
    (hunique : ∀ f g, p f → p g → f = g) (f : VirtualField) :
  all.find? p = some f ↔ p f
  := by
  rw [find?_all_eq_some_iff]
  constructor
  · rintro ⟨hf, -⟩
    exact hf
  · intro hf
    use hf
    intro g hlt hg
    rw [hunique g f hg hf] at hlt
    exact absurd hlt (Nat.lt_irrefl _)

/-- If every virtual field that passes one test passes another, the first that passes the other
is not later. -/
theorem find?_all_mono {p q : VirtualField → Bool} {f : VirtualField}
    (hpq : ∀ g, p g → q g) (hf : all.find? p = some f) :
  ∃ g, all.find? q = some g ∧ g.rank ≤ f.rank
  := by
  obtain ⟨hp, -⟩ := (find?_all_eq_some_iff p f).mp hf
  have hq := hpq f hp
  obtain ⟨g, hg⟩ := Option.isSome_iff_exists.mp (List.find?_isSome.mpr ⟨f, mem_all f, hq⟩)
  use g, hg
  obtain ⟨-, hbefore⟩ := (find?_all_eq_some_iff q g).mp hg
  apply Nat.le_of_not_lt
  intro hlt
  apply hbefore f hlt hq

/-! ### Types -/

/-- The classes that are known by name to hold the value of a virtual field. -/
def holders : VirtualField → List String
  | unbox => ClassName.wrappers
  | optionalValue => ClassName.optionals
  | arrayLength | stringLength | collectionSize | mapSize => []

/-- Objects of a class type have the virtual fields of the families their class belongs to,
and those whose values the class holds. -/
theorem exposedBy_named (f : VirtualField) (h : Hierarchy) (c : String) (args : List Ty) :
  f.exposedBy h (.named c args)
    ↔ (∃ a, f.ownerClass? = some a ∧ h.isSubclass c a) ∨ c ∈ f.holders
  := by
  cases f with
  | arrayLength => simp [exposedBy, Ty.isArray, ownerClass?, holders]
  | unbox =>
    simp [exposedBy, Ty.isWrapper, Ty.unboxed?, Ty.className?, Primitive.ofWrapper?,
      ownerClass?, holders, ClassName.wrappers]
  | optionalValue =>
    simp [exposedBy, Ty.isOptional, Ty.optionalClass?, Ty.className?, ownerClass?, holders,
      ClassName.optionals]
  | _ =>
    simp [exposedBy, Hierarchy.isInheritor, Ty.className?, ownerClass?, holders]

/-- A type that is no class type has the length of an array, or no virtual field. -/
theorem exposedBy_of_no_class {t : Ty} (ht : t.className? = none) (f : VirtualField)
    (h : Hierarchy) :
  f.exposedBy h t ↔ f = arrayLength ∧ t.isArray
  := by
  cases f with
  | arrayLength => simp [exposedBy]
  | unbox => simp [exposedBy, Ty.isWrapper, Ty.unboxed?, ht]
  | optionalValue => simp [exposedBy, Ty.isOptional, Ty.optionalClass?, ht]
  | _ => simp [exposedBy, Hierarchy.isInheritor, ht, ownerClass?]

theorem ownerClass?_mem {f : VirtualField} {a : String} (ha : f.ownerClass? = some a) :
  a ∈ ClassName.familyRoots
  := by
  cases f with
  | stringLength | collectionSize | mapSize =>
    cases ha
    decide
  | arrayLength | unbox | optionalValue => contradiction

theorem exists_ownerClass? {a : String} (ha : a ∈ ClassName.familyRoots) :
  ∃ f : VirtualField, f.ownerClass? = some a
  := by
  simp only [ClassName.familyRoots, List.mem_cons, List.not_mem_nil, or_false] at ha
  rcases ha with rfl | rfl | rfl
  · use stringLength
    rfl
  · use collectionSize
    rfl
  · use mapSize
    rfl

theorem ownerClass?_injective {f g : VirtualField} {a : String} (hf : f.ownerClass? = some a)
    (hg : g.ownerClass? = some a) :
  f = g
  := by
  have hall : ∀ f ∈ all, ∀ g ∈ all, f.ownerClass?.isSome → f.ownerClass? = g.ownerClass? →
      f = g := by
    decide
  apply hall f (mem_all f) g (mem_all g)
  · rw [hf, Option.isSome_some]
  · rw [hf, hg]

/-- No class is known by name to hold the values of two virtual fields. -/
theorem holders_disjoint {f g : VirtualField} {c : String} (hf : c ∈ f.holders)
    (hg : c ∈ g.holders) :
  f = g
  := by
  have hall : ∀ f ∈ all, ∀ g ∈ all, (∃ c ∈ f.holders, c ∈ g.holders) → f = g := by
    decide
  exact hall f (mem_all f) g (mem_all g) ⟨c, hf, hg⟩

theorem exists_mem_holders {c : String} :
  (∃ f : VirtualField, c ∈ f.holders) ↔ c ∈ ClassName.wrappers ∨ c ∈ ClassName.optionals
  := by
  constructor
  · rintro ⟨f, hf⟩
    cases f with
    | unbox => exact Or.inl hf
    | optionalValue => exact Or.inr hf
    | _ => contradiction
  · rintro (hc | hc)
    · use unbox, hc
    · use optionalValue, hc

/-- A virtual field of a family is held by no class that is known by name. -/
theorem not_mem_holders {f : VirtualField} {a c : String} (ha : f.ownerClass? = some a) :
  c ∉ f.holders
  := by
  cases f with
  | stringLength | collectionSize | mapSize => exact List.not_mem_nil
  | arrayLength | unbox | optionalValue => contradiction

/-- Objects of a type have two virtual fields exactly if the type is a class type whose
class overlaps. -/
theorem exposedBy_two_iff (h : Hierarchy) (t : Ty) :
  (∃ f g : VirtualField, f ≠ g ∧ f.exposedBy h t ∧ g.exposedBy h t)
    ↔ ∃ c args, t = .named c args ∧ h.Overlaps c
  := by
  constructor
  · rintro ⟨f, g, hne, hf, hg⟩
    cases ht : t.className? with
    | none =>
      rw [exposedBy_of_no_class ht] at hf hg
      exact absurd (hf.1.trans hg.1.symm) hne
    | some c =>
      obtain ⟨args, rfl⟩ := Ty.className?_eq_some_iff.mp ht
      use c, args, rfl
      rw [exposedBy_named] at hf hg
      rcases hf with ⟨a, ha, hca⟩ | hf
      · use a, ownerClass?_mem ha, hca
        rcases hg with ⟨b, hb, hcb⟩ | hg
        · left
          use b, ownerClass?_mem hb
          constructor
          · rintro rfl
            exact hne (ownerClass?_injective ha hb)
          · exact hcb
        · exact Or.inr (exists_mem_holders.mp ⟨g, hg⟩)
      · rcases hg with ⟨b, hb, hcb⟩ | hg
        · use b, ownerClass?_mem hb, hcb
          exact Or.inr (exists_mem_holders.mp ⟨f, hf⟩)
        · exact absurd (holders_disjoint hf hg) hne
  · rintro ⟨c, args, rfl, a, ha, hca, hsecond⟩
    obtain ⟨f, hf⟩ := exists_ownerClass? ha
    simp only [exposedBy_named]
    rcases hsecond with ⟨b, hb, hba, hcb⟩ | hholder
    · obtain ⟨g, hg⟩ := exists_ownerClass? hb
      use f, g
      and_intros
      · rintro rfl
        exact hba (Option.some.inj (hg.symm.trans hf))
      · exact Or.inl ⟨a, hf, hca⟩
      · exact Or.inl ⟨b, hg, hcb⟩
    · obtain ⟨g, hg⟩ := exists_mem_holders.mpr hholder
      use f, g
      and_intros
      · rintro rfl
        exact not_mem_holders hf hg
      · exact Or.inl ⟨a, hf, hca⟩
      · exact Or.inr hg

/-- At most one virtual field belongs to the objects of a type whose class does not
overlap. -/
theorem exposedBy_unique {h : Hierarchy} {t : Ty}
    (hno : ∀ c args, t = .named c args → ¬ h.Overlaps c) (f g : VirtualField)
    (hf : f.exposedBy h t) (hg : g.exposedBy h t) :
  f = g
  := by
  by_contra hne
  obtain ⟨c, args, ht, hover⟩ := (exposedBy_two_iff h t).mp ⟨f, g, hne, hf, hg⟩
  exact hno c args ht hover

/-! ### Accessors -/

/-- The names of the methods that read a virtual field. -/
def readerNames : VirtualField → List String
  | arrayLength => []
  | stringLength => ["length"]
  | collectionSize | mapSize => ["size"]
  | unbox => Primitive.all.map Primitive.unwrapMethod
  | optionalValue => OptionalClass.all.flatMap OptionalClass.getters

/-- Only collections and maps have their virtual fields read by methods of one name. -/
theorem readerNames_shared {f g : VirtualField} {n : String} (hlt : f.rank < g.rank)
    (hf : n ∈ f.readerNames) (hg : n ∈ g.readerNames) :
  f = collectionSize ∧ g = mapSize
  := by
  have hall : ∀ f ∈ all, ∀ g ∈ all, f.rank < g.rank →
      (∃ n ∈ f.readerNames, n ∈ g.readerNames) → f = collectionSize ∧ g = mapSize := by
    decide
  exact hall f (mem_all f) g (mem_all g) hlt ⟨n, hf, hg⟩

/-- The only virtual field that is read by a field is the length of arrays. -/
theorem eq_arrayLength_of_readBy {f : VirtualField} {h : Hierarchy} {d : Field Expr}
    (hread : f.readBy h (.field d)) :
  f = arrayLength
  := by
  cases f with
  | arrayLength => rfl
  | _ => contradiction

/-- A method reads the virtual field of a family exactly if it has the name of the field
and no parameters and belongs to a class of the family. -/
theorem readBy_method_iff {f : VirtualField} {a : String} (ha : f.ownerClass? = some a)
    (h : Hierarchy) (m : Method) :
  f.readBy h (.method m)
    ↔ m.name = f.name ∧ m.parameters = [] ∧ ∃ c, m.owner = .named c ∧ h.isSubclass c a
  := by
  have hdeclared : f.readBy h (.method m) = f.declaredReader h m := by
    cases f with
    | stringLength | collectionSize | mapSize => rfl
    | arrayLength | unbox | optionalValue => contradiction
  rw [hdeclared, declaredReader, ha]
  cases m.owner with
  | named c => simp [and_assoc]
  | arrayClass => simp

theorem name_mem_readerNames {f : VirtualField} {h : Hierarchy} {m : Method}
    (hread : f.readBy h (.method m)) :
  m.name ∈ f.readerNames
  := by
  cases f with
  | arrayLength => contradiction
  | unbox =>
    simp only [readBy, Method.unwraps, Bool.and_eq_true, List.any_eq_true,
      decide_eq_true_iff] at hread
    obtain ⟨-, p, hp, -, hname⟩ := hread
    exact List.mem_map.mpr ⟨p, hp, hname.symm⟩
  | optionalValue =>
    simp only [readBy, Hierarchy.resolver_getsPayload, Method.getsPayload, Bool.and_eq_true,
      List.any_eq_true, List.contains_iff_mem] at hread
    obtain ⟨-, o, ho, -, hname⟩ := hread
    exact List.mem_flatMap.mpr ⟨o, ho, hname⟩
  | _ =>
    have hname := ((readBy_method_iff rfl h m).mp hread).1
    exact List.mem_singleton.mpr hname

/-- A member reads two virtual fields exactly if they are the sizes of collections and of
maps and it is the method `size` of a class that is both. -/
theorem readBy_two_iff {f g : VirtualField} (hlt : f.rank < g.rank) (h : Hierarchy)
    (m : Member) :
  f.readBy h m ∧ g.readBy h m ↔ f = collectionSize ∧ g = mapSize ∧ h.ReadsTwoSizes m
  := by
  constructor
  · rintro ⟨hf, hg⟩
    cases m with
    | field d =>
      rw [eq_arrayLength_of_readBy hf, eq_arrayLength_of_readBy hg] at hlt
      exact absurd hlt (Nat.lt_irrefl _)
    | method d =>
      obtain ⟨rfl, rfl⟩ :=
        readerNames_shared hlt (name_mem_readerNames hf) (name_mem_readerNames hg)
      obtain ⟨hname, hparams, c, howner, hcollection⟩ := (readBy_method_iff rfl h d).mp hf
      obtain ⟨-, -, c', howner', hmap⟩ := (readBy_method_iff rfl h d).mp hg
      obtain rfl := Owner.named.inj (howner.symm.trans howner')
      use rfl, rfl, d, c
      exact ⟨rfl, hname, hparams, howner, hcollection, hmap⟩
  · rintro ⟨rfl, rfl, d, c, rfl, hname, hparams, howner, hcollection, hmap⟩
    constructor
    · exact (readBy_method_iff rfl h d).mpr ⟨hname, hparams, c, howner, hcollection⟩
    · exact (readBy_method_iff rfl h d).mpr ⟨hname, hparams, c, howner, hmap⟩

/-- At most one virtual field is read by a member that does not read two sizes. -/
theorem readBy_unique {h : Hierarchy} {m : Member} (hno : ¬ h.ReadsTwoSizes m)
    (f g : VirtualField) (hf : f.readBy h m) (hg : g.readBy h m) :
  f = g
  := by
  rcases Nat.lt_trichotomy f.rank g.rank with hlt | heq | hgt
  · exact absurd ((readBy_two_iff hlt h m).mp ⟨hf, hg⟩).2.2 hno
  · exact rank_injective heq
  · exact absurd ((readBy_two_iff hgt h m).mp ⟨hg, hf⟩).2.2 hno

/-! ### Answers of the registry -/

/-- The registry answers an element with the first virtual field that the member reads. -/
theorem ofAccessor?_eq_some_iff (h : Hierarchy) (e : Element) (f : VirtualField) :
  ofAccessor? h e = some f
    ↔ ∃ m, e.member? = some m ∧ f.readBy h m
      ∧ ∀ g : VirtualField, g.rank < f.rank → ¬ g.readBy h m
  := by
  simp only [ofAccessor?, Option.bind_eq_some_iff, find?_all_eq_some_iff]

/-- Whatever the hierarchy: two virtual fields are read by one member exactly if they are
the sizes of collections and of maps, in this order, and the member is the method `size`,
without parameters, of a class that is both.  Array types have the length of arrays alone,
primitive types have no virtual field, no type is both a box and an optional container, and
two virtual fields belong to one type exactly if it is a class type whose class overlaps.
The registry answers with the first match, which is the only one if there is no overlap. -/
theorem matches_overlap_iff (h : Hierarchy) :
  (∀ (f g : VirtualField) (m : Member), f.rank < g.rank →
      (f.readBy h m ∧ g.readBy h m
        ↔ f = collectionSize ∧ g = mapSize ∧ h.ReadsTwoSizes m))
    ∧ (∀ (f : VirtualField) (t : Ty), f.exposedBy h (.array t) ↔ f = arrayLength)
    ∧ (∀ (f : VirtualField) (p : Primitive), ¬ f.exposedBy h (.primitive p))
    ∧ (∀ t : Ty, ¬ (unbox.exposedBy h t ∧ optionalValue.exposedBy h t))
    ∧ (∀ t : Ty, (∃ f g : VirtualField, f ≠ g ∧ f.exposedBy h t ∧ g.exposedBy h t)
        ↔ ∃ c args, t = .named c args ∧ h.Overlaps c)
    ∧ (∀ (e : Element) (f : VirtualField), ofAccessor? h e = some f
        ↔ ∃ m, e.member? = some m ∧ f.readBy h m
          ∧ ∀ g : VirtualField, g.rank < f.rank → ¬ g.readBy h m)
    ∧ (∀ (t : Ty) (f : VirtualField), ofType? h t = some f
        ↔ f.exposedBy h t ∧ ∀ g : VirtualField, g.rank < f.rank → ¬ g.exposedBy h t)
    ∧ (∀ m : Member, ¬ h.ReadsTwoSizes m →
        ∀ f : VirtualField, ofAccessor? h (.member m) = some f ↔ f.readBy h m)
    ∧ (∀ t : Ty, (∀ c args, t = .named c args → ¬ h.Overlaps c) →
        ∀ f : VirtualField, ofType? h t = some f ↔ f.exposedBy h t)
  := by
  and_intros
  · intro f g m hlt
    exact readBy_two_iff hlt h m
  · intro f t
    rw [exposedBy_of_no_class rfl]
    exact and_iff_left rfl
  · intro f p hp
    exact Bool.false_ne_true ((exposedBy_of_no_class rfl f h).mp hp).2
  · rintro t ⟨hunbox, hoptional⟩
    obtain ⟨c, args, rfl, -⟩ := (exposedBy_two_iff h t).mp
      ⟨unbox, optionalValue, by decide, hunbox, hoptional⟩
    have hwrapper : c ∈ holders unbox :=
      ((exposedBy_named unbox h c args).mp hunbox).resolve_left nofun
    have hcontainer : c ∈ holders optionalValue :=
      ((exposedBy_named optionalValue h c args).mp hoptional).resolve_left nofun
    have heq := holders_disjoint hwrapper hcontainer
    contradiction
  · exact exposedBy_two_iff h
  · exact ofAccessor?_eq_some_iff h
  · intro t f
    apply find?_all_eq_some_iff
  · intro m hno f
    exact find?_all_eq_some_iff_of_unique (readBy_unique hno) f
  · intro t hno f
    exact find?_all_eq_some_iff_of_unique (exposedBy_unique hno) f

/-- A hierarchy with a class of tables, which are both lists and maps. -/
def tables : Hierarchy :=
  Hierarchy.jdk.declare "com.example.Table" ["java.util.List", "java.util.SortedMap"]

/-- The size of a table is that of a collection and that of a map, and the registry answers
with the former. -/
theorem matches_overlap_tables :
  let size : Member := .method (.getter "com.example.Table" "size" .int)
  tables.ReadsTwoSizes size ∧ ofAccessor? tables (.member size) = some collectionSize
    ∧ tables.Overlaps "com.example.Table"
    ∧ ofType? tables (.raw "com.example.Table") = some collectionSize
  := by
  intro size
  obtain ⟨haccessor, -, -, -, htype, -⟩ := matches_overlap_iff tables
  and_intros
  · have hread : collectionSize.readBy tables size ∧ mapSize.readBy tables size := by
      constructor
      · cbv
      · cbv
    exact ((haccessor collectionSize mapSize size (by decide)).mp hread).2.2
  · cbv
  · obtain ⟨c, args, hc, hover⟩ := (htype (.raw "com.example.Table")).mp
      ⟨collectionSize, mapSize, by decide, by cbv, by cbv⟩
    cases hc
    exact hover
  · cbv

end VirtualField

end VirtualFields
