import VirtualFields.Derivation.Create

/-!
# Requests

What a client may ask of a variable table: a variable, the read of a virtual field on a
variable, or the value of a virtual field on a qualifier.  A request asks the table for at
most one variable, `Request.key?`; requests without a key leave the table as it is.
`Request.runAll` serves a list of requests one after the other.
-/

namespace VirtualFields

/-- What identifies a variable of a table: its descriptor, its qualifier and its type. -/
structure Key where
  descriptor : Descriptor
  qualifier : Option (Variable Ref)
  type : Option Ty

/-- The path of the variable that a key asks for. -/
def Key.path (k : Key) : Path :=
  VariableTable.requestPath k.descriptor k.qualifier k.type

/-- A variable has the path of a key exactly when it has the descriptor, the qualifier, up
to references, and the type of the key. -/
theorem Key.path_eq_iff {k : Key} {v : Variable Ref} :
  v.path = k.path ↔ v.descriptor = k.descriptor
    ∧ v.qualifier.map Variable.path = k.qualifier.map Variable.path ∧ v.type = k.type
  := by
  obtain ⟨r, d, q, t⟩ := v
  rw [VariableTable.path_mk, path, VariableTable.requestPath, VariableTable.requestPath]
  simp

/-- The variable of a table for a key. -/
def VariableTable.lookUp (t : VariableTable) (k : Key) : Reply (Variable Ref) :=
  t.request k.descriptor k.qualifier k.type

/-- The reply with its variable as a value. -/
def Reply.asValue (r : Reply (Variable Ref)) : Reply (Value Ref) :=
  ⟨.var r.answer, r.table, r.messages⟩

/-- The messages of a reply that are meant for debugging. -/
def Reply.debugMessages {α : Type} (r : Reply α) : List Message :=
  r.messages.filter (·.level = .debug)

/-- A request to a variable table. -/
inductive Request where
  /-- A variable for a descriptor, a qualifier and a type. -/
  | ask (k : Key)
  /-- The read of a virtual field on a variable, with a type. -/
  | access (f : VirtualField) (v : Variable Ref) (type : Option Ty)
  /-- The value of a virtual field on a qualifier, with the type of a new variable. -/
  | create (f : VirtualField) (qualifier : Option (Value Ref)) (target : Option Ty)

/-- The key that the derivation of a virtual field's value asks for. -/
def Derivation.key? (f : VirtualField) : Derivation Ref → Option Key
  | .access v type => some ⟨.field f, some v, type⟩
  | .unboxed _ | .folded .. | .tagged _ | .literal _ | .default => none

/-- A derivation without a key gives the same value whatever the table. -/
theorem Derivation.answer_of_no_key {f : VirtualField} {d : Derivation Ref}
    (h : d.key? f = none) (t t' : VariableTable) :
  (d.create f t).answer = (d.create f t').answer
  := by
  cases d with
  | access => contradiction
  | _ => rfl

namespace Request

/-- The reply to a request. -/
def run (env : Collaborators) (t : VariableTable) : Request → Reply (Value Ref)
  | .ask k => (t.lookUp k).asValue
  | .access f v type => (t.access f v type).asValue
  | .create f qualifier target => f.create env t qualifier target

/-- The key of the variable that a request asks the table for. -/
def key? (env : Collaborators) : Request → Option Key
  | .ask k => some k
  | .access f v type => some ⟨.field f, some v, type⟩
  | .create f qualifier target => (f.derive env qualifier target).key? f

/-- The answers to a list of requests, each made to the table that the one before it
left. -/
def runAll (env : Collaborators) (t : VariableTable) : List Request → Reply (List (Value Ref))
  | [] => ⟨[], t, []⟩
  | r :: rs =>
    let first := r.run env t
    let rest := runAll env first.table rs
    ⟨first.answer :: rest.answer, rest.table, first.messages ++ rest.messages⟩

/-- The keys that a list of requests asks for. -/
def keys (env : Collaborators) (rs : List Request) : List Key :=
  rs.filterMap (key? env)

/-- The keys of a list of requests, each with the answer to its request. -/
def served (env : Collaborators) (rs : List Request) (answers : List (Value Ref)) :
    List (Key × Value Ref) :=
  (rs.zip answers).filterMap fun (r, x) => (r.key? env).map (·, x)

/-- A request with a key is answered by the variable of the table for its key. -/
theorem run_of_key {env : Collaborators} {r : Request} {k : Key} (h : r.key? env = some k)
    (t : VariableTable) :
  r.run env t = (t.lookUp k).asValue
  := by
  cases r with
  | ask k' =>
    cases h
    rfl
  | access f v type =>
    cases h
    rfl
  | create f qualifier target =>
    simp only [key?] at h
    rw [run, VirtualField.create]
    generalize f.derive env qualifier target = d at h ⊢
    cases d with
    | access v type =>
      cases h
      rfl
    | _ => contradiction

/-- A request without a key leaves the table as it is and sends no message for
debugging. -/
theorem run_of_no_key {env : Collaborators} {r : Request} (h : r.key? env = none)
    (t : VariableTable) :
  (r.run env t).table = t ∧ (r.run env t).debugMessages = []
  := by
  cases r with
  | ask => contradiction
  | access => contradiction
  | create f qualifier target =>
    simp only [key?] at h
    rw [run, VirtualField.create]
    generalize f.derive env qualifier target = d at h ⊢
    cases d with
    | access => contradiction
    | _ => exact ⟨rfl, rfl⟩

theorem keys_cons (env : Collaborators) (r : Request) (rs : List Request) :
  keys env (r :: rs) = (r.key? env).toList ++ keys env rs
  := by
  rw [keys, List.filterMap_cons]
  cases r.key? env with
  | none => rfl
  | some k => rfl

theorem served_cons (env : Collaborators) (r : Request) (rs : List Request) (x : Value Ref)
    (xs : List (Value Ref)) :
  served env (r :: rs) (x :: xs) = ((r.key? env).map (·, x)).toList ++ served env rs xs
  := by
  cases h : r.key? env with
  | none => simp [served, h]
  | some k => simp [served, h]

/-- Every key of a run is served. -/
theorem map_fst_served (env : Collaborators) (t : VariableTable) (rs : List Request) :
  (served env rs (runAll env t rs).answer).map Prod.fst = keys env rs
  := by
  induction rs generalizing t with
  | nil => rfl
  | cons r rs ih =>
    rw [runAll, served_cons, keys_cons, List.map_append, ih]
    cases r.key? env with
    | none => rfl
    | some k => rfl

/-- Requests are served in two parts as they are served at once. -/
theorem runAll_append (env : Collaborators) (t : VariableTable) (rs ss : List Request) :
  (runAll env t (rs ++ ss)).table = (runAll env (runAll env t rs).table ss).table
  := by
  induction rs generalizing t with
  | nil => rfl
  | cons r rs ih => exact ih (r.run env t).table

end Request

end VirtualFields
