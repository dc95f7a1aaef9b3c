import VirtualFields.Derivation.Basic
import VirtualFields.Derivation.VariableTable

/-!
# Creating the value of a virtual field

`VirtualField.create` turns the source of a derivation into a value.  Only a read of the
field on a variable asks the variable table; every other source leaves the table as it is.
-/

namespace VirtualFields

/-- The value that a derivation gives for a virtual field. -/
def Derivation.create (d : Derivation Ref) (f : VirtualField) (t : VariableTable) :
    Reply (Value Ref) :=
  match d with
  | .unboxed inner => ⟨inner, t, [.unboxed f inner]⟩
  | .folded v c => ⟨.constant c, t, [.folded f v (.constant c)]⟩
  | .access v type =>
    let reply := t.access f v type
    ⟨.var reply.answer, reply.table, reply.messages⟩
  | .tagged value => ⟨value, t, [.reused f value]⟩
  | .literal c => ⟨.constant c, t, []⟩
  | .default => ⟨f.defaultValue, t, []⟩

/-- The value of a virtual field on a qualifier, which may be missing, with the type that
a new variable gets. -/
def VirtualField.create (f : VirtualField) (env : Collaborators) (t : VariableTable)
    (qualifier : Option (Value Ref)) (target : Option Ty) : Reply (Value Ref) :=
  (f.derive env qualifier target).create f t

end VirtualFields
