import Mathlib.Data.Finset.Card
import Mathlib.Data.List.Nodup
import VirtualFields.Proofs.Derivation.Requests

/-!
# Interning

A variable table holds one variable for every path it was asked for.  A request adds at
most one variable at the end of its table and announces the variables it adds
(`VariableTable.Grows`), which runs of any length inherit from their requests
(`Request.grows_runAll`).  Since the variables of a table have different references and
different paths, two of them are the same variable exactly when they have the same path,
and a run hands out one variable for each path (`Request.runAll_interns`).
-/

namespace VirtualFields

namespace VariableTable

/-- The paths of the variables of a table. -/
def paths (t : VariableTable) : List Path :=
  t.entries.map Variable.path

/-- The variables of a table refer to different positions. -/
theorem nodup_refs (t : VariableTable) :
  (t.entries.map Variable.ref).Nodup
  := by
  rw [t.refs]
  apply List.Nodup.map _ List.nodup_range
  intro m n h
  exact (Ref.mk.inj h).2

/-- Two variables of a table have the same reference exactly when they have the same
path. -/
theorem ref_eq_iff_path_eq (t : VariableTable) {v w : Variable Ref} (hv : v ∈ t.entries)
    (hw : w ∈ t.entries) :
  v.ref = w.ref ↔ v.path = w.path
  := by
  constructor
  · intro h
    rw [List.inj_on_of_nodup_map t.nodup_refs hv hw h]
  · intro h
    rw [List.inj_on_of_nodup_map t.nodup hv hw h]

/-- The messages that announce new variables of a table that has had `n` variables. -/
def announce (n : Nat) (new : List (Variable Ref)) : List Message :=
  new.mapIdx fun i v => .interned v (n + i + 1)

theorem announce_append (n : Nat) (new new' : List (Variable Ref)) :
  announce n (new ++ new') = announce n new ++ announce (n + new.length) new'
  := by
  rw [announce, announce, announce, List.mapIdx_append]
  congr 2
  funext i v
  rw [Nat.add_comm i, ← Nat.add_assoc]

/-- A table grows by new variables at its end, which are announced, so that it has the
variables of the keys asked for. -/
structure Grows (t : VariableTable) (keys : List Key) (new : List (Variable Ref))
    (t' : VariableTable) (messages : List Message) : Prop where
  appended : t'.entries = t.entries ++ new
  mem_paths : ∀ p, p ∈ t'.paths ↔ p ∈ t.paths ∨ p ∈ keys.map Key.path
  announced : messages = announce t.size new

/-- A table that is asked for nothing does not grow. -/
theorem Grows.refl (t : VariableTable) :
  Grows t [] [] t []
  where
  appended := (List.append_nil _).symm
  mem_paths := by simp
  announced := rfl

theorem Grows.trans {t t' t'' : VariableTable} {keys keys' : List Key}
    {new new' : List (Variable Ref)} {messages messages' : List Message}
    (h : Grows t keys new t' messages) (h' : Grows t' keys' new' t'' messages') :
  Grows t (keys ++ keys') (new ++ new') t'' (messages ++ messages')
  where
  appended := by
    rw [h'.appended, h.appended, List.append_assoc]
  mem_paths p := by
    rw [h'.mem_paths, h.mem_paths, List.map_append, List.mem_append, or_assoc]
  announced := by
    rw [announce_append, h.announced, h'.announced, size, size, h.appended,
      List.length_append]

/-- The variable that a table finds for a path is one of its variables and has the
path. -/
theorem find?_spec {t : VariableTable} {p : Path} {v : Variable Ref} (h : t.find? p = some v) :
  v ∈ t.entries ∧ v.path = p
  := by
  use List.mem_of_find?_eq_some h
  simpa using List.find?_some h

/-- A table asked for a key holds the variable for it, which it has added if there was
none. -/
theorem lookUp_spec (t : VariableTable) (k : Key) :
  (t.lookUp k).answer ∈ (t.lookUp k).table.entries
    ∧ (t.lookUp k).answer.path = k.path
    ∧ ∃ new, Grows t [k] new (t.lookUp k).table (t.lookUp k).debugMessages
  := by
  rw [lookUp, request]
  split
  next v hv =>
    obtain ⟨hmem, hpath⟩ := find?_spec hv
    use hmem, hpath, []
    constructor
    · rw [List.append_nil]
    · intro p
      have hk : k.path ∈ t.paths := List.mem_map.mpr ⟨v, hmem, hpath⟩
      rw [List.map_singleton, List.mem_singleton]
      constructor
      · exact Or.inl
      · rintro (hp | rfl)
        · exact hp
        · exact hk
    · rfl
  next hnone =>
    and_intros
    · simp [push]
    · apply path_mk
    · use [⟨⟨t.label, t.size⟩, k.descriptor, k.qualifier, k.type⟩]
      constructor
      · rfl
      · intro p
        rw [paths, push, List.map_append, List.mem_append, List.map_singleton,
          List.map_singleton, path_mk]
        rfl
      · rfl

end VariableTable

namespace Request

open VariableTable

/-- A request lets its table grow by the variable of its key, if it has one. -/
theorem grows_run (env : Collaborators) (t : VariableTable) (r : Request) :
  ∃ new, Grows t (r.key? env).toList new (r.run env t).table (r.run env t).debugMessages
  := by
  cases h : r.key? env with
  | none =>
    obtain ⟨htable, hmessages⟩ := run_of_no_key h t
    use []
    rw [htable, hmessages]
    apply Grows.refl
  | some k =>
    rw [run_of_key h t]
    exact (t.lookUp_spec k).2.2

/-- A run lets its table grow by the variables of the keys of its requests. -/
theorem grows_runAll (env : Collaborators) (t : VariableTable) (rs : List Request) :
  ∃ new, Grows t (keys env rs) new (runAll env t rs).table
    (runAll env t rs).debugMessages
  := by
  induction rs generalizing t with
  | nil =>
    use []
    apply Grows.refl
  | cons r rs ih =>
    obtain ⟨new, h⟩ := r.grows_run env t
    obtain ⟨new', h'⟩ := ih (r.run env t).table
    use new ++ new'
    rw [keys_cons, runAll, Reply.debugMessages, List.filter_append]
    exact h.trans h'

/-- Every key of a run is answered by a variable for it, which the table still holds after
the run. -/
theorem served_runAll (env : Collaborators) (t : VariableTable) (rs : List Request) :
  ∀ p ∈ served env rs (runAll env t rs).answer,
    ∃ v ∈ (runAll env t rs).table.entries, p.2 = .var v ∧ v.path = p.1.path
  := by
  induction rs generalizing t with
  | nil => simp [served]
  | cons r rs ih =>
    intro p hp
    rw [runAll, served_cons, List.mem_append, Option.mem_toList,
      Option.map_eq_some_iff] at hp
    rcases hp with ⟨k, hk, rfl⟩ | hp
    · obtain ⟨hmem, hpath, -⟩ := t.lookUp_spec k
      obtain ⟨new, hgrows⟩ := grows_runAll env (r.run env t).table rs
      use (t.lookUp k).answer
      constructor
      · rw [runAll, hgrows.appended, run_of_key hk]
        exact List.mem_append_left _ hmem
      · rw [run_of_key hk]
        exact ⟨rfl, hpath⟩
    · exact ih (r.run env t).table p hp

/-- No request of a run replaces or removes a variable of the table. -/
theorem isPrefix_runAll (env : Collaborators) (t : VariableTable) (rs : List Request) (n : Nat) :
  (runAll env t (rs.take n)).table.entries <+: (runAll env t rs).table.entries
  := by
  obtain ⟨new, hgrows⟩ := grows_runAll env (runAll env t (rs.take n)).table (rs.drop n)
  rw [← runAll_append, List.take_append_drop] at hgrows
  use new, hgrows.appended.symm

/-- Two answers of a run are the same variable exactly when their keys have the same
path. -/
theorem sameVariable_iff (env : Collaborators) (t : VariableTable) (rs : List Request) :
  ∀ p ∈ served env rs (runAll env t rs).answer, ∀ q ∈ served env rs (runAll env t rs).answer,
    p.2.sameVariable q.2 ↔ p.1.path = q.1.path
  := by
  intro p hp q hq
  obtain ⟨v, hv, hpv, hpath⟩ := served_runAll env t rs p hp
  obtain ⟨w, hw, hqw, hpath'⟩ := served_runAll env t rs q hq
  rw [hpv, hqw, ← hpath, ← hpath', ← ref_eq_iff_path_eq _ hv hw]
  simp [Value.sameVariable]

/-- The table of a run that begins without variables has one for each path. -/
theorem size_runAll (env : Collaborators) (label : Nat) (rs : List Request) :
  (runAll env { label := label } rs).table.size
    = ((keys env rs).map Key.path).toFinset.card
  := by
  obtain ⟨new, hgrows⟩ := grows_runAll env { label := label } rs
  generalize (runAll env { label := label } rs).table = t at hgrows ⊢
  have hpaths : t.paths.toFinset = ((keys env rs).map Key.path).toFinset := by
    ext p
    rw [List.mem_toFinset, List.mem_toFinset, hgrows.mem_paths]
    simp [paths]
  rw [← hpaths, List.toFinset_card_of_nodup (l := t.paths) t.nodup, paths, List.length_map,
    size]

/-- A table without variables interns the variables of every run: each key is answered by a
variable with its descriptor, qualifier and type; two answers are the same variable exactly
when their keys have the same path, which is when the answers have the same shape; no
variable is replaced or removed, and there is one for each path; and the messages for
debugging announce each new variable with the number of variables so far. -/
theorem runAll_interns (env : Collaborators) (label : Nat) (rs : List Request) :
  let out := runAll env { label := label } rs
  let answers := served env rs out.answer
  answers.map Prod.fst = keys env rs
    ∧ (∀ p ∈ answers, ∃ v, p.2 = .var v ∧ v.descriptor = p.1.descriptor
        ∧ v.qualifier.map Variable.path = p.1.qualifier.map Variable.path
        ∧ v.type = p.1.type)
    ∧ (∀ p ∈ answers, ∀ q ∈ answers,
        (p.2.sameVariable q.2 ↔ p.1.path = q.1.path)
          ∧ (p.2.sameVariable q.2 ↔ p.2.shape = q.2.shape)
          ∧ (p.1.type ≠ q.1.type → ¬ p.2.sameVariable q.2))
    ∧ (∀ n, (runAll env { label := label } (rs.take n)).table.entries
        <+: out.table.entries)
    ∧ out.table.size = ((keys env rs).map Key.path).toFinset.card
    ∧ out.debugMessages = out.table.entries.mapIdx fun i v => .interned v (i + 1)
  := by
  intro out answers
  and_intros
  · apply map_fst_served
  · intro p hp
    obtain ⟨v, -, hpv, hpath⟩ := served_runAll env _ rs p hp
    use v, hpv
    exact Key.path_eq_iff.mp hpath
  · intro p hp q hq
    have hsame := sameVariable_iff env _ rs p hp q hq
    and_intros
    · exact hsame
    · obtain ⟨v, -, hpv, hpath⟩ := served_runAll env _ rs p hp
      obtain ⟨w, -, hqw, hpath'⟩ := served_runAll env _ rs q hq
      rw [hsame, ← hpath, ← hpath', hpv, hqw]
      simp [Value.shape, Value.map, Variable.path]
    · intro htype hpq
      apply htype
      exact congrArg Variable.type (hsame.mp hpq)
  · intro n
    apply isPrefix_runAll
  · apply size_runAll
  · obtain ⟨new, hgrows⟩ := grows_runAll env { label := label } rs
    rw [hgrows.announced, hgrows.appended]
    simp [announce, size]

/-- The lengths of equal array variables of two tables are the same variable, but an array
variable without a type is not the one with its type. -/
theorem runAll_interns_lengths :
  let array : Descriptor := .element (.localVariable "a" (.array .int))
  let own : Variable Ref := ⟨⟨0, 0⟩, array, none, some (.array .int)⟩
  let foreign : Variable Ref := ⟨⟨7, 3⟩, array, none, some (.array .int)⟩
  let rs : List Request := [
    .ask ⟨array, none, some (.array .int)⟩,
    .ask ⟨array, none, none⟩,
    .access .arrayLength own (some .int),
    .create .arrayLength (some (.var foreign)) none]
  let out := runAll .stock { label := 0 } rs
  ∃ x y m n, out.answer = [x, y, m, n] ∧ ¬ x.sameVariable y ∧ m.sameVariable n
    ∧ out.table.size = 3
  := by
  intro array own foreign rs out
  obtain ⟨-, -, hsame, -, hsize, -⟩ := runAll_interns .stock 0 rs
  refine ⟨_, _, _, _, rfl, ?_, ?_, ?_⟩
  · apply (hsame (⟨array, none, some (.array .int)⟩, _) ?_ (⟨array, none, none⟩, _) ?_).2.2
    · simp
    · exact .head _
    · exact .tail _ (.head _)
  · apply (hsame (⟨.field .arrayLength, some own, some .int⟩, _) ?_
      (⟨.field .arrayLength, some foreign, some .int⟩, _) ?_).1.mpr
    · rfl
    · exact .tail _ (.tail _ (.head _))
    · exact .tail _ (.tail _ (.tail _ (.head _)))
  · rw [hsize]
    decide +kernel

end Request

end VirtualFields
