import VirtualFields.Derivation.Basic
import VirtualFields.Proofs.Registry.Extension

/-!
# Accessors and their classes

A method that reads a virtual field takes no parameters and is declared on a class whose
objects have the field: a class of the field's family, or one that holds the value of the field
(`VirtualField.of_readBy_method`).  So a virtual field that is looked up by accessor, by type or
by the type of a variable is found in all three ways (`VirtualField.lookUps_agree`).

The methods of classes that hold a value read it on an object, while a family has static
readers too: a static method reads a virtual field exactly if it has no parameters and bears the
name of a family's field on a class of the family (`VirtualField.readBy_isInstanceRead_iff`,
`VirtualField.not_all_isInstanceRead`).
-/

namespace VirtualFields

/-- A member is read on an object: it is the field `length` of arrays, or a method of a class
that has no parameters and is not static. -/
def Member.IsInstanceRead : Member → Prop
  | .field d => d.name = "length" ∧ d.owner = .arrayClass
  | .method d => (∃ c, d.owner = .named c) ∧ d.parameters = [] ∧ ¬ d.modifiers.has .static

/-- A member is a static method that bears the name of a family's field, without parameters, on
a class of the family. -/
def Hierarchy.ReadsStatically (h : Hierarchy) (m : Member) : Prop :=
  ∃ (d : Method) (f : VirtualField) (a c : String), m = .method d ∧ d.modifiers.has .static
    ∧ d.name = f.name ∧ d.parameters = [] ∧ f.ownerClass? = some a ∧ d.owner = .named c
    ∧ h.isSubclass c a

/-- A method that is recognized by its class, as an instance getter of one of a list of classes,
has no parameters, is declared on one of these classes and is not static. -/
theorem Method.declared_of_any {α : Type} {d : Method} (xs : List α) (className : α → String)
    (p : α → Bool)
    (h : d.isInstanceGetter && xs.any fun x => d.owner = .named (className x) && p x) :
  d.parameters = [] ∧ ∃ c, d.owner = .named c ∧ c ∈ xs.map className ∧ ¬ d.modifiers.has .static
  := by
  simp only [isInstanceGetter, Bool.and_eq_true, Bool.not_eq_true', List.any_eq_true,
    List.isEmpty_iff, decide_eq_true_iff] at h
  obtain ⟨⟨hparams, hstatic⟩, x, hx, howner, -⟩ := h
  use hparams, className x, howner, List.mem_map_of_mem hx
  rw [hstatic]
  apply Bool.false_ne_true

namespace VirtualField

variable {f : VirtualField} {h : Hierarchy} {m : Member} {d : Method} {t : Ty}

/-! ### Methods that read a virtual field -/

/-- A method that reads a virtual field has no parameters and is declared on a class of the
field's family, or on one that holds its value; in the latter case it is not static. -/
theorem of_readBy_method (hread : f.readBy h (.method d)) :
  d.parameters = [] ∧ ∃ c, d.owner = .named c
    ∧ ((∃ a, f.ownerClass? = some a ∧ h.isSubclass c a ∧ d.name = f.name)
      ∨ c ∈ f.holders ∧ ¬ d.modifiers.has .static)
  := by
  cases f with
  | arrayLength => contradiction
  | unbox =>
    obtain ⟨hparams, c, howner, hholder⟩ :=
      Method.declared_of_any Primitive.all Primitive.wrapper _ hread
    use hparams, c, howner
    right
    apply hholder
  | optionalValue =>
    obtain ⟨hparams, c, howner, hholder⟩ :=
      Method.declared_of_any OptionalClass.all OptionalClass.className _ hread
    use hparams, c, howner
    right
    apply hholder
  | _ =>
    obtain ⟨hname, hparams, c, howner, hsub⟩ := (readBy_method_iff rfl h d).mp hread
    use hparams, c, howner
    left
    exact ⟨_, rfl, hsub, hname⟩

/-- A method that reads a virtual field is declared on a class all of whose types have it. -/
theorem exposedBy_of_readBy_method (hread : f.readBy h (.method d)) :
  ∃ c, d.owner = .named c ∧ ∀ args, f.exposedBy h (.named c args)
  := by
  obtain ⟨-, c, howner, hsource⟩ := of_readBy_method hread
  use c, howner
  intro args
  rw [exposedBy_named]
  rcases hsource with ⟨a, ha, hsub, -⟩ | ⟨hholder, -⟩
  · left
    use a
  · right
    apply hholder

/-! ### The three look-ups -/

/-- What a box or an optional container holds has a type exactly on the types of boxes or of
optional containers. -/
theorem isSome_typeOn?_iff (hf : f = unbox ∨ f = optionalValue) (h : Hierarchy) (t : Ty) :
  (f.typeOn? (some t) h).isSome ↔ f.exposedBy h t
  := by
  rcases hf with rfl | rfl
  · simp [typeOn?, exposedBy, Ty.isWrapper]
  · simp [typeOn?, exposedBy, Ty.isOptional, Ty.payload?]

/-- A virtual field has a type on every type whose objects have the field. -/
theorem isSome_typeOn?_of_exposedBy (ht : f.exposedBy h t) :
  (f.typeOn? (some t) h).isSome
  := by
  cases f with
  | unbox => apply (isSome_typeOn?_iff (.inl rfl) h t).mpr ht
  | optionalValue => apply (isSome_typeOn?_iff (.inr rfl) h t).mpr ht
  | _ => rfl

/-- Whatever the hierarchy: a method that reads a virtual field is declared on a class, all types
of this class have the field, and the field has a type on all variables of these types.  If the
field is found for the method, the types of the class have a first field too, which is not later
and is the same one if no type of the class has two fields.  What a box or an optional container
holds has a type on a typed variable exactly if the type has the field. -/
theorem lookUps_agree {ι : Type} (h : Hierarchy) :
  (∀ (f : VirtualField) (d : Method), f.readBy h (.method d) →
      ∃ c, d.owner = .named c ∧ ∀ args, f.exposedBy h (.named c args)
        ∧ ∀ v : Variable ι, v.type = some (.named c args) → (f.typeOn? v.type h).isSome)
    ∧ (∀ (f : VirtualField) (d : Method), ofAccessor? h (.member (.method d)) = some f →
        ∃ c, d.owner = .named c ∧ ∀ args, ∃ g, ofType? h (.named c args) = some g
          ∧ g.rank ≤ f.rank
          ∧ ((∀ f' g' : VirtualField, f'.exposedBy h (.named c args) →
              g'.exposedBy h (.named c args) → f' = g') → g = f))
    ∧ ∀ f : VirtualField, f = unbox ∨ f = optionalValue →
        ∀ (v : Variable ι) (t : Ty), v.type = some t →
          ((f.typeOn? v.type h).isSome ↔ f.exposedBy h t)
  := by
  and_intros
  · intro f d hread
    obtain ⟨c, howner, hexposed⟩ := exposedBy_of_readBy_method hread
    use c, howner
    intro args
    use hexposed args
    intro v hv
    rw [hv]
    apply isSome_typeOn?_of_exposedBy (hexposed args)
  · intro f d hfound
    have hread : f.readBy h (.method d) :=
      ((find?_all_eq_some_iff (·.readBy h (.method d)) f).mp hfound).1
    obtain ⟨c, howner, hexposed⟩ := exposedBy_of_readBy_method hread
    use c, howner
    intro args
    -- Whatever the method reads, the types of its class have.
    have hpass : ∀ g : VirtualField, g.readBy h (.method d) → g.exposedBy h (.named c args) := by
      intro g hg
      obtain ⟨c', howner', hexposed'⟩ := exposedBy_of_readBy_method hg
      obtain rfl := Owner.named.inj (howner.symm.trans howner')
      apply hexposed'
    obtain ⟨g, hg, hrank⟩ := find?_all_mono hpass hfound
    use g, hg, hrank
    intro hunique
    apply hunique g f
    · apply ((find?_all_eq_some_iff _ g).mp hg).1
    · apply hexposed
  · intro f hf v t hv
    rw [hv]
    apply isSome_typeOn?_iff hf

/-- A hierarchy with a class of ropes, which are both strings and lists. -/
def ropes : Hierarchy where
  declarations := [
    ("java.util.List", [ClassName.collection]),
    ("com.example.Rope", [ClassName.string, "java.util.List"])]

/-- The size of a rope is that of a collection, while the first field of ropes is the length of
a string; the payload of an optional container is found by its accessor and by its type. -/
theorem lookUps_agree_ropes :
  ofAccessor? ropes (.member (.method (.getter "com.example.Rope" "size" .int)))
      = some collectionSize
    ∧ ofType? ropes (.raw "com.example.Rope") = some stringLength
    ∧ stringLength.rank ≤ collectionSize.rank
    ∧ collectionSize.exposedBy ropes (.raw "com.example.Rope")
    ∧ ofType? Hierarchy.jdk (.named ClassName.optional [.int]) = some optionalValue
    ∧ (optionalValue.typeOn? (some (.named ClassName.optional [.int]))).isSome
  := by
  have haccessor : ofAccessor? ropes (.member (.method (.getter "com.example.Rope" "size" .int)))
      = some collectionSize := by
    cbv
  have htype : ofType? ropes (.raw "com.example.Rope") = some stringLength := by cbv
  have hget : ofAccessor? Hierarchy.jdk (.member (.method (.getter ClassName.optional "get" .int)))
      = some optionalValue := by
    cbv
  obtain ⟨hexposed, hfirst, -⟩ := lookUps_agree (ι := Unit) ropes
  obtain ⟨-, hfirst', htyped⟩ := lookUps_agree (ι := Unit) .jdk
  use haccessor, htype
  and_intros
  · obtain ⟨c, hc, hall⟩ := hfirst _ _ haccessor
    cases hc
    obtain ⟨g, hg, hrank, -⟩ := hall []
    obtain rfl := Option.some.inj (htype.symm.trans hg)
    apply hrank
  · obtain ⟨c, hc, hall⟩ := hexposed collectionSize
      (.getter "com.example.Rope" "size" .int) (by cbv)
    cases hc
    apply (hall []).1
  · obtain ⟨c, hc, hall⟩ := hfirst' _ _ hget
    cases hc
    obtain ⟨g, hg, -, hunique⟩ := hall [.int]
    rw [← hunique (exposedBy_unique fun c _ _ => Hierarchy.not_overlaps_jdk c)]
    apply hg
  · apply (htyped optionalValue (.inr rfl)
      ⟨(), .element (.classRef ClassName.optional), none, _⟩ _ rfl).mpr
    cbv

/-! ### Static methods -/

/-- A member that reads a virtual field is read on an object, or it reads the field of a family
statically. -/
theorem isInstanceRead_or_readsStatically (hread : f.readBy h m) :
  m.IsInstanceRead ∨ f.ownerClass?.isSome ∧ h.ReadsStatically m
  := by
  cases m with
  | field d =>
    left
    obtain rfl := eq_arrayLength_of_readBy hread
    simpa [readBy, Member.IsInstanceRead] using hread
  | method d =>
    obtain ⟨hparams, c, howner, hsource⟩ := of_readBy_method hread
    by_cases hstatic : d.modifiers.has .static
    · right
      rcases hsource with ⟨a, ha, hsub, hname⟩ | ⟨-, hinstance⟩
      · constructor
        · rw [ha, Option.isSome_some]
        · use d, f, a, c
      · contradiction
    · left
      use ⟨c, howner⟩

theorem not_isInstanceRead (hm : h.ReadsStatically m) :
  ¬ m.IsInstanceRead
  := by
  obtain ⟨d, f, a, c, rfl, hstatic, -⟩ := hm
  rintro ⟨-, -, hinstance⟩
  contradiction

theorem exists_readBy (hm : h.ReadsStatically m) :
  ∃ f : VirtualField, f.readBy h m
  := by
  obtain ⟨d, f, a, c, rfl, -, hname, hparams, ha, howner, hsub⟩ := hm
  use f
  rw [readBy_method_iff ha]
  use hname, hparams, c

/-- The registry has an answer for the members that read some virtual field. -/
theorem isSome_ofAccessor?_iff (h : Hierarchy) (m : Member) :
  (ofAccessor? h (.member m)).isSome ↔ ∃ f : VirtualField, f.readBy h m
  := by
  simp [ofAccessor?, Element.member?, mem_all]

/-- Whatever the hierarchy: a member that reads a virtual field is read on an object, as the
field `length` of arrays or as a method of a class that has no parameters and is not static,
except that a static method reads the field of a family if it bears the name of the field,
without parameters, on a class of the family.  The members without such a read are exactly those
that are read on objects alone, and the registry answers for a static method exactly if it has
one. -/
theorem readBy_isInstanceRead_iff (h : Hierarchy) :
  (∀ (f : VirtualField) (m : Member), f.readBy h m →
      m.IsInstanceRead ∨ f.ownerClass?.isSome ∧ h.ReadsStatically m)
    ∧ (∀ m : Member, (∀ f : VirtualField, f.readBy h m → m.IsInstanceRead)
        ↔ ¬ h.ReadsStatically m)
    ∧ ∀ d : Method, d.modifiers.has .static →
        ((ofAccessor? h (.member (.method d))).isSome ↔ h.ReadsStatically (.method d))
  := by
  and_intros
  · intro f m
    apply isInstanceRead_or_readsStatically
  · intro m
    constructor
    · intro hall hm
      obtain ⟨f, hf⟩ := exists_readBy hm
      apply not_isInstanceRead hm (hall f hf)
    · intro hno f hf
      apply (isInstanceRead_or_readsStatically hf).resolve_right
      rintro ⟨-, hm⟩
      contradiction
  · intro d hstatic
    rw [isSome_ofAccessor?_iff]
    constructor
    · rintro ⟨f, hf⟩
      apply ((isInstanceRead_or_readsStatically hf).resolve_left _).2
      rintro ⟨-, -, hinstance⟩
      contradiction
    · apply exists_readBy

/-- The method `length` of strings, declared as static. -/
def staticLength : Method :=
  (Method.getter ClassName.string "length" .int).withModifiers (.single .static)

/-- The registry answers for the length of strings, also if it is declared as static; the size
of lists is read on an object. -/
theorem readBy_isInstanceRead_iff_length :
  staticLength.modifiers.has .static
    ∧ (ofAccessor? Hierarchy.jdk (.member (.method staticLength))).isSome
    ∧ Hierarchy.jdk.ReadsStatically (.method staticLength)
    ∧ (Member.method (.getter "java.util.List" "size" .int)).IsInstanceRead
  := by
  have hstatic : staticLength.modifiers.has .static := by decide
  have hfound : (ofAccessor? Hierarchy.jdk (.member (.method staticLength))).isSome := by cbv
  obtain ⟨hreads, -, hexact⟩ := readBy_isInstanceRead_iff .jdk
  use hstatic, hfound, (hexact staticLength hstatic).mp hfound
  apply (hreads collectionSize _ (by cbv)).resolve_right
  rintro ⟨-, d, -, -, -, hd, hstatic, -⟩
  cases hd
  revert hstatic
  decide

/-- Not all members that read a virtual field are read on an object: a static method of strings
may bear the name of their length. -/
theorem not_all_isInstanceRead :
  ¬ ∀ (h : Hierarchy) (f : VirtualField) (m : Member), f.readBy h m → m.IsInstanceRead
  := by
  intro hall
  obtain ⟨-, -, hinstance⟩ := hall .jdk stringLength (.method staticLength) (by cbv)
  apply hinstance
  decide

end VirtualField

end VirtualFields
