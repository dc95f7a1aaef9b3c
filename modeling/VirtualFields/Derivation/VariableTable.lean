import VirtualFields.Derivation.Message

/-!
# Tables of variables

A variable table hands out variables so that every path has one variable: a request for
a descriptor, a qualifier and a type returns the variable that an earlier request with the
same path added, and adds a new variable if there is none.  A variable is identified by
the label of its table and its position in it.
-/

namespace VirtualFields

/-- The variables of a table in the order they were added. -/
structure VariableTable where
  label : Nat
  entries : List (Variable Ref) := []
  /-- Variables have different paths. -/
  nodup : (entries.map Variable.path).Nodup := by simp
  /-- Variables refer to their positions. -/
  refs : entries.map Variable.ref = (List.range entries.length).map (Ref.mk label) := by simp

/-- An answer, the variable table after it and the messages sent on the way. -/
structure Reply (α : Type) where
  answer : α
  table : VariableTable
  messages : List Message := []

namespace VariableTable

/-- The number of variables of a table. -/
def size (t : VariableTable) : Nat := t.entries.length

/-- The text that shows a table by its size. -/
def text (t : VariableTable) : String :=
  "ValueFactory \x7b variables: " ++ toString t.size ++ ", .. \x7d"

/-- The path of a request. -/
def requestPath (d : Descriptor) (qualifier : Option (Variable Ref)) (type : Option Ty) :
    Path :=
  ⟨(), d, qualifier.map Variable.path, type⟩

/-- The path of a request is the path of the variable it may add. -/
theorem path_mk (r : Ref) (d : Descriptor) (qualifier : Option (Variable Ref))
    (type : Option Ty) :
  Variable.path ⟨r, d, qualifier, type⟩ = requestPath d qualifier type
  := by
  cases qualifier <;> rfl

/-- The variable of a table with a given path. -/
def find? (t : VariableTable) (p : Path) : Option (Variable Ref) :=
  t.entries.find? (·.path = p)

/-- The table with a new variable at its end. -/
def push (t : VariableTable) (d : Descriptor) (qualifier : Option (Variable Ref))
    (type : Option Ty) (h : t.find? (requestPath d qualifier type) = none) :
    VariableTable where
  label := t.label
  entries := t.entries ++ [⟨⟨t.label, t.size⟩, d, qualifier, type⟩]
  nodup := by
    have hp : ∀ v ∈ t.entries, v.path ≠ requestPath d qualifier type := by
      simpa [find?] using h
    rw [List.map_append, List.nodup_append]
    refine ⟨t.nodup, by simp, ?_⟩
    intro p hmem q hq
    obtain ⟨v, hv, rfl⟩ := List.mem_map.mp hmem
    simp only [List.map_cons, List.map_nil, List.mem_singleton, path_mk] at hq
    exact hq ▸ hp v hv
  refs := by
    simp [List.range_succ, t.refs, size]

/-- The variable for a descriptor, a qualifier and a type. -/
def request (t : VariableTable) (d : Descriptor) (qualifier : Option (Variable Ref))
    (type : Option Ty) : Reply (Variable Ref) :=
  match h : t.find? (requestPath d qualifier type) with
  | some v => ⟨v, t, []⟩
  | none =>
    let v : Variable Ref := ⟨⟨t.label, t.size⟩, d, qualifier, type⟩
    ⟨v, t.push d qualifier type h, [.interned v (t.size + 1)]⟩

/-- The variable that reads a virtual field on a variable. -/
def access (t : VariableTable) (f : VirtualField) (v : Variable Ref) (type : Option Ty) :
    Reply (Variable Ref) :=
  t.request (.field f) (some v) type

end VariableTable

end VirtualFields
