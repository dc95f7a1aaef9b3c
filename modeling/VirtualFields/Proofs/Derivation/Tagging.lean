import Mathlib.Data.List.Induction
import VirtualFields.Proofs.Derivation.Precision

/-!
# Tagging

Facts are built up one fact after the other.  A fact replaces the fact of its kind and leaves
the facts of other kinds as they are, so of each kind the last fact given stays
(`Facts.fact?_ofList`), and the order of facts of different kinds has no influence.  The tags of
all virtual fields together are one kind: a virtual field has a known value on the facts only if
the last of all tags is a tag for this very field (`VirtualField.create_ofList`).
-/

namespace VirtualFields

/-- The kinds of facts. -/
inductive FactKind where
  | interval
  | nullability
  | tag
  deriving DecidableEq

/-- A single fact about a value, with tag values of type `α`. -/
inductive Fact (α : Type) where
  | interval (i : Interval)
  | nullability (n : Nullability)
  | tag (t : Tag α)

variable {α : Type}

namespace Fact

/-- The kind of a fact. -/
def kind : Fact α → FactKind
  | interval _ => .interval
  | nullability _ => .nullability
  | tag _ => .tag

/-- The facts of a kind in the order in which they are given. -/
def ofKind (k : FactKind) (xs : List (Fact α)) : List (Fact α) :=
  xs.filter (·.kind = k)

/-- The last fact of a kind. -/
def last? (k : FactKind) (xs : List (Fact α)) : Option (Fact α) :=
  (ofKind k xs).getLast?

theorem last?_append_self (xs : List (Fact α)) (x : Fact α) :
  last? x.kind (xs ++ [x]) = some x
  := by
  simp [last?, ofKind]

theorem last?_append_of_ne {x : Fact α} {k : FactKind} (hk : x.kind ≠ k) (xs : List (Fact α)) :
  last? k (xs ++ [x]) = last? k xs
  := by
  simp [last?, ofKind, hk]

end Fact

namespace Facts

/-- The facts with a fact in place of the one of its kind. -/
def insert (s : Facts α) : Fact α → Facts α
  | .interval i => s.withInterval i
  | .nullability n => s.withNullability n
  | .tag t => s.withTag t

/-- The facts that a list of facts gives, one after the other. -/
def ofList (xs : List (Fact α)) : Facts α :=
  xs.foldl insert {}

/-- The fact of a kind. -/
def fact? (s : Facts α) : FactKind → Option (Fact α)
  | .interval => s.interval.map .interval
  | .nullability => s.nullability.map .nullability
  | .tag => s.tag.map .tag

theorem fact?_insert_self (s : Facts α) (x : Fact α) :
  (s.insert x).fact? x.kind = some x
  := by
  cases x with
  | _ => rfl

/-- A fact leaves the facts of other kinds as they are. -/
theorem fact?_insert_of_ne {x : Fact α} {k : FactKind} (hk : x.kind ≠ k) (s : Facts α) :
  (s.insert x).fact? k = s.fact? k
  := by
  cases x with
  | interval =>
    cases k with
    | interval => contradiction
    | nullability | tag => rfl
  | nullability =>
    cases k with
    | nullability => contradiction
    | interval | tag => rfl
  | tag =>
    cases k with
    | tag => contradiction
    | interval | nullability => rfl

/-- Facts are determined by the fact of each kind. -/
theorem eq_of_fact?_eq {s s' : Facts α} (h : ∀ k, s.fact? k = s'.fact? k) :
  s = s'
  := by
  obtain ⟨i, n, t⟩ := s
  obtain ⟨i', n', t'⟩ := s'
  obtain rfl : i = i' := Option.map_injective (fun _ _ => Fact.interval.inj) (h .interval)
  obtain rfl : n = n' := Option.map_injective (fun _ _ => Fact.nullability.inj) (h .nullability)
  obtain rfl : t = t' := Option.map_injective (fun _ _ => Fact.tag.inj) (h .tag)
  rfl

/-- Of each kind the last fact given stays. -/
theorem fact?_ofList (xs : List (Fact α)) (k : FactKind) :
  (ofList xs).fact? k = Fact.last? k xs
  := by
  induction xs using List.reverseRecOn with
  | nil =>
    cases k with
    | _ => rfl
  | append_singleton xs x ih =>
    rw [ofList, List.foldl_append, List.foldl_cons, List.foldl_nil, ← ofList]
    by_cases hk : x.kind = k
    · subst hk
      rw [fact?_insert_self, Fact.last?_append_self]
    · rw [fact?_insert_of_ne hk, ih, Fact.last?_append_of_ne hk]

/-- Lists of facts that agree in the last fact of each kind give the same facts. -/
theorem ofList_eq {xs ys : List (Fact α)} (h : ∀ k, Fact.last? k xs = Fact.last? k ys) :
  ofList xs = ofList ys
  := by
  apply eq_of_fact?_eq
  intro k
  rw [fact?_ofList, fact?_ofList, h k]

theorem tag_ofList_eq_some_iff {xs : List (Fact α)} {t : Tag α} :
  (ofList xs).tag = some t ↔ Fact.last? .tag xs = some (.tag t)
  := by
  simp [← fact?_ofList, fact?]

end Facts

namespace VirtualField

variable {f : VirtualField} {s : Facts (Value Ref)}

/-- The value of a virtual field on facts with a tag for the field is the value of the tag. -/
theorem create_of_tag {x : Value Ref} (htag : s.tag = some ⟨f, x⟩) (env : Collaborators)
    (t : VariableTable) (target : Option Ty) :
  f.create env t (some (.facts s)) target = ⟨x, t, [.reused f x]⟩
  := by
  rw [create, derive_facts, extract?_eq_some_iff.mpr htag]
  rfl

/-- The value of a virtual field on facts without a tag for the field is the default value. -/
theorem create_of_no_tag (hno : ∀ x, s.tag ≠ some ⟨f, x⟩) (env : Collaborators)
    (t : VariableTable) (target : Option Ty) :
  f.create env t (some (.facts s)) target = ⟨f.defaultValue, t, []⟩
  := by
  have hnone : f.extract? s.tag = none := by
    rw [Option.eq_none_iff_forall_ne_some]
    intro x hx
    apply hno x (extract?_eq_some_iff.mp hx)
  rw [create, derive_facts, hnone]
  rfl

/-- Facts that are given one after the other hold the last fact given of each kind, and nothing
else.  So two lists of facts give the same if they agree in the last fact of each kind, in
particular if the one is a reordering of the other that keeps the order within each kind.  The
value of a virtual field on what a list of facts gives is the value of the last tag if this is a
tag for the field, whatever tags came before, and the default value otherwise.  The variable
table stays as it is, and no message tells of a new variable. -/
theorem create_ofList :
  (∀ (xs : List (Fact (Value Ref))) (k : FactKind), (Facts.ofList xs).fact? k = Fact.last? k xs)
    ∧ (∀ xs ys : List (Fact (Value Ref)), (∀ k, Fact.last? k xs = Fact.last? k ys) →
        Facts.ofList xs = Facts.ofList ys)
    ∧ (∀ xs ys : List (Fact (Value Ref)), (∀ k, Fact.ofKind k xs = Fact.ofKind k ys) →
        Facts.ofList xs = Facts.ofList ys)
    ∧ ∀ (f : VirtualField) (env : Collaborators) (t : VariableTable) (target : Option Ty)
        (xs : List (Fact (Value Ref))),
      (∀ x, Fact.last? .tag xs = some (.tag ⟨f, x⟩) →
          f.create env t (some (.facts (.ofList xs))) target = ⟨x, t, [.reused f x]⟩)
        ∧ ((∀ x, Fact.last? .tag xs ≠ some (.tag ⟨f, x⟩)) →
          f.create env t (some (.facts (.ofList xs))) target = ⟨f.defaultValue, t, []⟩)
  := by
  and_intros
  · apply Facts.fact?_ofList
  · intro xs ys
    apply Facts.ofList_eq
  · intro xs ys h
    apply Facts.ofList_eq
    intro k
    rw [Fact.last?, Fact.last?, h k]
  · intro f env t target xs
    constructor
    · intro x hx
      apply create_of_tag (Facts.tag_ofList_eq_some_iff.mpr hx)
    · intro hno
      apply create_of_no_tag
      intro x hx
      apply hno x (Facts.tag_ofList_eq_some_iff.mp hx)

/-- Facts about a value that is first taken for a string and then for an array of seven
elements. -/
def sevenElements : List (Fact (Value Ref)) := [
  .tag ⟨stringLength, .constant (.int 3)⟩,
  .interval .lengths,
  .tag ⟨arrayLength, .constant (.int 7)⟩,
  .nullability .notNull]

/-- The value has seven elements and, the tag for strings being replaced, the default length of
a string; the facts are the same if the last of them, of another kind than the tags, is given
first. -/
theorem create_ofList_sevenElements :
  let s : Facts (Value Ref) := .ofList sevenElements
  let t : VariableTable := { label := 0 }
  Fact.last? .tag sevenElements = some (.tag ⟨arrayLength, .constant (.int 7)⟩)
    ∧ arrayLength.create .stock t (some (.facts s)) none
      = ⟨.constant (.int 7), t, [.reused arrayLength (.constant (.int 7))]⟩
    ∧ stringLength.create .stock t (some (.facts s)) none = ⟨.ofInterval .lengths, t, []⟩
    ∧ s = .ofList (.nullability .notNull :: sevenElements.dropLast)
  := by
  intro s t
  obtain ⟨-, -, hreorder, hcreate⟩ := create_ofList
  have hlast : Fact.last? .tag sevenElements = some (.tag ⟨arrayLength, .constant (.int 7)⟩) :=
    rfl
  use hlast
  and_intros
  · apply (hcreate arrayLength .stock t none sevenElements).1
    apply hlast
  · apply (hcreate stringLength .stock t none sevenElements).2
    intro x hx
    rw [hlast] at hx
    cases hx
  · apply hreorder
    intro k
    cases k with
    | _ => rfl

end VirtualField

end VirtualFields
