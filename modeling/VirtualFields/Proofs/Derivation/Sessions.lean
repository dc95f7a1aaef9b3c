import VirtualFields.Proofs.Derivation.Precision

/-!
# Sessions

In a session, clients make requests on values that they have and on the answers to earlier
requests.  A query is a request that names the queries whose answers it uses, by labels
from a type `ν`.  `Session.run` makes the requests of a schedule, a list of labels in which
a label may be repeated, one after the other; the table and the answers so far are its
state.  The schedule is ordered if it lists each query after those whose answers the query
uses (`Session.Ordered`).

Along an ordered schedule every query stays settled once it is answered: its request, made
again, has the same answer and leaves the table as it is (`Session.Settles`).  One step
preserves this together with what it needs (`Session.Consistent.step`), hence so does a run
(`Session.consistent_run`).
-/

namespace VirtualFields

/-! ### Queries -/

/-- The variable that a value is. -/
def Value.asVariable? {ι : Type} : Value ι → Option (Variable ι)
  | var v => some v
  | constant _ | facts _ | boxed _ | unknown => none

/-- What a request is made on: a value, the answer to a query, or the box or the tagged
facts that a client builds around these. -/
inductive Operand (ν : Type) where
  | given (x : Value Ref)
  | answer (n : ν)
  | boxed (o : Operand ν)
  | tagged (interval : Option Interval) (nullability : Option Nullability) (f : VirtualField)
      (o : Operand ν)

namespace Operand

variable {ν : Type}

/-- The query whose answer an operand is built from. -/
def source? : Operand ν → Option ν
  | given _ => none
  | answer n => some n
  | boxed o | tagged _ _ _ o => o.source?

/-- The value of an operand, given the answers so far. -/
def value? (answer? : ν → Option (Value Ref)) : Operand ν → Option (Value Ref)
  | given x => some x
  | answer n => answer? n
  | boxed o => (o.value? answer?).map .boxed
  | tagged i n f o => (o.value? answer?).map fun x => .facts ⟨i, n, some ⟨f, x⟩⟩

/-- The variable that the value of an operand is. -/
def asVariable? (answer? : ν → Option (Value Ref)) (o : Operand ν) : Option (Variable Ref) :=
  (o.value? answer?).bind Value.asVariable?

/-- The value of an operand depends on the answer to its source alone. -/
theorem value?_congr {a b : ν → Option (Value Ref)} (o : Operand ν)
    (h : ∀ n ∈ o.source?, a n = b n) :
  o.value? a = o.value? b
  := by
  induction o with
  | given => rfl
  | answer n => exact h n rfl
  | boxed o ih => rw [value?, value?, ih h]
  | tagged i n f o ih => rw [value?, value?, ih h]

end Operand

/-- A request on operands. -/
inductive Query (ν : Type) where
  /-- A variable for a descriptor, a qualifier and a type. -/
  | ask (d : Descriptor) (qualifier : Option (Operand ν)) (type : Option Ty)
  /-- The read of a virtual field on a variable, with a type. -/
  | access (f : VirtualField) (qualifier : Operand ν) (type : Option Ty)
  /-- The value of a virtual field on a qualifier, with the type of a new variable. -/
  | create (f : VirtualField) (qualifier : Option (Operand ν)) (target : Option Ty)

namespace Query

variable {ν : Type}

/-- The operand of a query. -/
def operand? : Query ν → Option (Operand ν)
  | ask _ o _ | create _ o _ => o
  | access _ o _ => some o

/-- The query whose answer a query uses. -/
def source? (q : Query ν) : Option ν :=
  q.operand?.bind Operand.source?

/-- The request of a query, given the answers so far.  There is none if an answer is
missing, or if the query needs a variable and its operand is not one. -/
def request? (answer? : ν → Option (Value Ref)) : Query ν → Option Request
  | ask d none type => some (.ask ⟨d, none, type⟩)
  | ask d (some o) type => (o.asVariable? answer?).map fun v => .ask ⟨d, some v, type⟩
  | access f o type => (o.asVariable? answer?).map fun v => .access f v type
  | create f none target => some (.create f none target)
  | create f (some o) target => (o.value? answer?).map fun x => .create f (some x) target

/-- The request of a query depends on the answer to its source alone. -/
theorem request?_congr {a b : ν → Option (Value Ref)} (q : Query ν)
    (h : ∀ n ∈ q.source?, a n = b n) :
  q.request? a = q.request? b
  := by
  have hvalue : ∀ o ∈ q.operand?, o.value? a = o.value? b := by
    intro o ho
    apply o.value?_congr
    intro n hn
    exact h n (Option.bind_eq_some_iff.mpr ⟨o, ho, hn⟩)
  cases q with
  | ask d o type =>
    cases o with
    | none => rfl
    | some o => rw [request?, request?, Operand.asVariable?, Operand.asVariable?, hvalue o rfl]
  | access f o type =>
    rw [request?, request?, Operand.asVariable?, Operand.asVariable?, hvalue o rfl]
  | create f o target =>
    cases o with
    | none => rfl
    | some o => rw [request?, request?, hvalue o rfl]

end Query

/-! ### Making a request again -/

/-- A table that holds a variable for a key answers with this variable. -/
theorem VariableTable.lookUp_of_mem {t : VariableTable} {k : Key} {v : Variable Ref}
    (hmem : v ∈ t.entries) (hpath : v.path = k.path) :
  (t.lookUp k).answer = v ∧ (t.lookUp k).table = t
  := (t.interns_lookUp k).unique (.found hmem hpath)

namespace Request

variable {env : Collaborators}

/-- A request without a key has the same answer whatever the table. -/
theorem answer_of_no_key {r : Request} (h : r.key? env = none) (t t' : VariableTable) :
  (r.run env t).answer = (r.run env t').answer
  := by
  cases r with
  | ask => contradiction
  | access => contradiction
  | create f qualifier target => exact Derivation.answer_of_no_key h t t'

/-- A request made again, to a table that has only grown since, has the same answer and
leaves the table as it is. -/
theorem run_again (r : Request) {t t' : VariableTable}
    (h : (r.run env t).table.entries <+: t'.entries) :
  (r.run env t').answer = (r.run env t).answer ∧ (r.run env t').table = t'
  := by
  cases hk : r.key? env with
  | none => exact ⟨answer_of_no_key hk t' t, (run_of_no_key hk t').1⟩
  | some k =>
    rw [run_of_key hk] at h ⊢
    rw [run_of_key hk]
    obtain ⟨hmem, hpath, -⟩ := t.lookUp_spec k
    obtain ⟨hanswer, htable⟩ := VariableTable.lookUp_of_mem (h.mem hmem) hpath
    exact ⟨congrArg Value.var hanswer, htable⟩

/-- No request relabels its table. -/
theorem label_run (r : Request) (t : VariableTable) :
  (r.run env t).table.label = t.label
  := by
  cases hk : r.key? env with
  | none => rw [(run_of_no_key hk t).1]
  | some k =>
    rw [run_of_key hk, Reply.asValue]
    have h := t.interns_lookUp k
    generalize (t.lookUp k).answer = v, (t.lookUp k).table = t' at h ⊢
    cases h with
    | found => rfl
    | added _ hlabel => exact hlabel

end Request

/-! ### Schedules -/

/-- The table of a session and the answers so far, the latest one first. -/
structure Session (ν : Type) where
  table : VariableTable
  answers : List (ν × Value Ref) := []

namespace Session

variable {ν : Type}

/-- A schedule lists each query after the one whose answer it uses, unless that is done
before the schedule. -/
def Ordered (queries : ν → Query ν) : List ν → List ν → Prop
  | _, [] => True
  | done, n :: ns => (∀ m ∈ (queries n).source?, m ∈ done) ∧ Ordered queries (n :: done) ns

/-- Whether a schedule is ordered is decided query by query. -/
instance Ordered.decidable [DecidableEq ν] (queries : ν → Query ν) :
    (done ns : List ν) → Decidable (Ordered queries done ns)
  | _, [] => isTrue trivial
  | done, n :: ns =>
    have := Ordered.decidable queries (n :: done) ns
    inferInstanceAs (Decidable (_ ∧ Ordered queries (n :: done) ns))

/-- What holds of a query if it holds of its source holds of the queries of an ordered
schedule. -/
theorem Ordered.induction {queries : ν → Query ν} {done ns : List ν} {P : ν → Prop}
    (h : Ordered queries done ns) (hdone : ∀ n ∈ done, P n)
    (hstep : ∀ n, (∀ m ∈ (queries n).source?, P m) → P n) :
  ∀ n ∈ ns, P n
  := by
  induction ns generalizing done with
  | nil => simp
  | cons n ns ih =>
    obtain ⟨hn, hns⟩ := h
    have hself : P n := hstep n fun m hm => hdone m (hn m hm)
    rw [List.forall_mem_cons]
    use hself
    apply ih hns
    rw [List.forall_mem_cons]
    exact ⟨hself, hdone⟩

variable [DecidableEq ν]

/-- The latest answer to a query. -/
def answer? (s : Session ν) (n : ν) : Option (Value Ref) :=
  (s.answers.find? (·.1 = n)).map Prod.snd

theorem mem_of_answer?_eq_some {s : Session ν} {n : ν} {x : Value Ref}
    (h : s.answer? n = some x) :
  (n, x) ∈ s.answers
  := by
  obtain ⟨p, hp, rfl⟩ := Option.map_eq_some_iff.mp h
  obtain rfl : p.1 = n := by simpa using List.find?_some hp
  exact List.mem_of_find?_eq_some hp

theorem answer?_cons_self (t : VariableTable) (n : ν) (x : Value Ref)
    (answers : List (ν × Value Ref)) :
  (⟨t, (n, x) :: answers⟩ : Session ν).answer? n = some x
  := by
  simp [answer?]

theorem answer?_cons_of_ne (t t' : VariableTable) {m n : ν} (h : m ≠ n) (x : Value Ref)
    (answers : List (ν × Value Ref)) :
  (⟨t, (n, x) :: answers⟩ : Session ν).answer? m = (⟨t', answers⟩ : Session ν).answer? m
  := by
  simp [answer?, h.symm]

/-- The request of a query of the session. -/
def request? (queries : ν → Query ν) (s : Session ν) (n : ν) : Option Request :=
  (queries n).request? s.answer?

/-- The session after a request that is made for a query. -/
def serve (env : Collaborators) (s : Session ν) (n : ν) (r : Request) : Session ν :=
  let reply := r.run env s.table
  ⟨reply.table, (n, reply.answer) :: s.answers⟩

/-- The session after the request of a query, if there is one. -/
def step (env : Collaborators) (queries : ν → Query ν) (s : Session ν) (n : ν) : Session ν :=
  match s.request? queries n with
  | some r => s.serve env n r
  | none => s

/-- The session after the requests of a schedule. -/
def run (env : Collaborators) (queries : ν → Query ν) (s : Session ν) (ns : List ν) :
    Session ν :=
  ns.foldl (step env queries) s

/-- The request of a query, made again, has a given answer and leaves the table as it
is. -/
def Settles (env : Collaborators) (queries : ν → Query ν) (s : Session ν) (n : ν)
    (x : Value Ref) : Prop :=
  ∃ r, s.request? queries n = some r ∧ (r.run env s.table).answer = x
    ∧ (r.run env s.table).table = s.table

/-- What holds of a session that began with a table and has done some queries. -/
structure Consistent (env : Collaborators) (queries : ν → Query ν) (t : VariableTable)
    (done : List ν) (s : Session ν) : Prop where
  label : s.table.label = t.label
  kept : t.entries <+: s.table.entries
  /-- Each variable was there at the beginning or was requested. -/
  requested : ∀ p ∈ s.table.paths, p ∈ t.paths
    ∨ ∃ n ∈ done, ∃ r ∈ s.request? queries n, ∃ k ∈ r.key? env, k.path = p
  closed : ∀ n ∈ done, ∀ m ∈ (queries n).source?, m ∈ done
  answered : ∀ n ∈ done, (s.request? queries n).isSome → ∃ x, (n, x) ∈ s.answers
  settled : ∀ p ∈ s.answers, p.1 ∈ done ∧ s.Settles env queries p.1 p.2

variable {env : Collaborators} {queries : ν → Query ν} {t : VariableTable} {s : Session ν}
  {done ns : List ν} {n m : ν} {x y : Value Ref} {r : Request}

theorem Settles.unique (h : s.Settles env queries n x) (h' : s.Settles env queries n y) :
  x = y
  := by
  obtain ⟨r, hr, rfl, -⟩ := h
  obtain ⟨r', hr', rfl, -⟩ := h'
  rw [hr] at hr'
  cases hr'
  rfl

/-- At the beginning nothing is done. -/
theorem consistent_start (t : VariableTable) :
  Consistent env queries t [] ⟨t, []⟩
  where
  label := rfl
  kept := List.prefix_rfl
  requested _ hp := .inl hp
  closed := by simp
  answered := by simp
  settled := by simp

namespace Consistent

/-- All answers to a query are the same. -/
theorem eq_of_mem (h : Consistent env queries t done s) (hx : (n, x) ∈ s.answers)
    (hy : (n, y) ∈ s.answers) :
  x = y
  := (h.settled _ hx).2.unique (h.settled _ hy).2

/-- The latest answer to a query is any of its answers. -/
theorem answer?_of_mem (h : Consistent env queries t done s) (hmem : (n, x) ∈ s.answers) :
  s.answer? n = some x
  := by
  cases hn : s.answer? n with
  | none =>
    rw [answer?, Option.map_eq_none_iff, List.find?_eq_none] at hn
    exact absurd (decide_eq_true rfl) (hn _ hmem)
  | some y => exact congrArg some (h.eq_of_mem (mem_of_answer?_eq_some hn) hmem)

/-- The request of a query that is done has been answered, and the table holds what it asks
for. -/
theorem served (h : Consistent env queries t done s) (hn : n ∈ done)
    (hr : s.request? queries n = some r) :
  (n, (r.run env s.table).answer) ∈ s.answers ∧ (r.run env s.table).table = s.table
  := by
  obtain ⟨x, hx⟩ := h.answered n hn (hr ▸ rfl)
  obtain ⟨r', hr', rfl, htable⟩ := (h.settled _ hx).2
  rw [hr] at hr'
  cases hr'
  use hx

/-- The answer to a query that is done is the answer to its request. -/
theorem answer?_eq (h : Consistent env queries t done s) (hn : n ∈ done) :
  s.answer? n = (s.request? queries n).map fun r => (r.run env s.table).answer
  := by
  cases hr : s.request? queries n with
  | none =>
    rw [Option.map_none, Option.eq_none_iff_forall_ne_some]
    intro x hx
    obtain ⟨r, hr', -⟩ := (h.settled _ (mem_of_answer?_eq_some hx)).2
    rw [hr] at hr'
    contradiction
  | some r => exact h.answer?_of_mem (h.served hn hr).1

/-- A request does not change the answers to the queries that are done. -/
theorem answer?_serve (h : Consistent env queries t done s) (hr : s.request? queries n = some r)
    (hm : m ∈ done) :
  (s.serve env n r).answer? m = s.answer? m
  := by
  by_cases hmn : m = n
  · subst hmn
    rw [h.answer?_eq hm, hr, serve, answer?_cons_self]
    rfl
  · exact answer?_cons_of_ne _ _ hmn _ _

/-- A request does not change the requests of the queries whose sources are done. -/
theorem request?_serve (h : Consistent env queries t done s)
    (hr : s.request? queries n = some r) (hm : ∀ k ∈ (queries m).source?, k ∈ done) :
  (s.serve env n r).request? queries m = s.request? queries m
  := by
  apply Query.request?_congr
  intro k hk
  exact h.answer?_serve hr (hm k hk)

/-- With a query whose source is done, the sources of all queries are done. -/
theorem closed_cons (h : Consistent env queries t done s)
    (hn : ∀ m ∈ (queries n).source?, m ∈ done) :
  ∀ m ∈ n :: done, ∀ k ∈ (queries m).source?, k ∈ n :: done
  := by
  intro m hm k hk
  rcases List.mem_cons.mp hm with rfl | hm
  · exact .tail _ (hn k hk)
  · exact .tail _ (h.closed m hm k hk)

/-- A query without a request keeps a session consistent. -/
theorem skip (h : Consistent env queries t done s) (hr : s.request? queries n = none)
    (hn : ∀ m ∈ (queries n).source?, m ∈ done) :
  Consistent env queries t (n :: done) s
  where
  label := h.label
  kept := h.kept
  requested p hp := by
    rcases h.requested p hp with hp | ⟨m, hm, hrest⟩
    · exact .inl hp
    · exact .inr ⟨m, .tail _ hm, hrest⟩
  closed := h.closed_cons hn
  answered := by
    intro m hm hsome
    rcases List.mem_cons.mp hm with rfl | hm
    · rw [hr] at hsome
      contradiction
    · exact h.answered m hm hsome
  settled p hp := ⟨.tail _ (h.settled p hp).1, (h.settled p hp).2⟩

/-- The request of a query keeps a session consistent. -/
theorem serve (h : Consistent env queries t done s) (hr : s.request? queries n = some r)
    (hn : ∀ m ∈ (queries n).source?, m ∈ done) :
  Consistent env queries t (n :: done) (s.serve env n r)
  := by
  obtain ⟨new, hgrows⟩ := r.grows_run env s.table
  have hprefix : s.table.entries <+: (r.run env s.table).table.entries :=
    ⟨new, hgrows.appended.symm⟩
  -- a query uses answers of queries that are done, and these answers stay the same
  have hself := h.request?_serve hr hn
  have hrequest : ∀ m ∈ done, (s.serve env n r).request? queries m = s.request? queries m :=
    fun m hm => h.request?_serve hr (h.closed m hm)
  constructor
  · exact (r.label_run s.table).trans h.label
  · exact h.kept.trans hprefix
  · intro p hp
    rcases (hgrows.mem_paths p).mp hp with hp | hp
    · rcases h.requested p hp with hp | ⟨m, hm, hrest⟩
      · exact .inl hp
      · rw [← hrequest m hm] at hrest
        exact .inr ⟨m, .tail _ hm, hrest⟩
    · obtain ⟨k, hk, rfl⟩ := List.mem_map.mp hp
      exact .inr ⟨n, .head _, r, hself.trans hr, k, Option.mem_toList.mp hk, rfl⟩
  · exact h.closed_cons hn
  · intro m hm hsome
    rcases List.mem_cons.mp hm with rfl | hm
    · exact ⟨_, .head _⟩
    · rw [hrequest m hm] at hsome
      obtain ⟨x, hx⟩ := h.answered m hm hsome
      exact ⟨x, .tail _ hx⟩
  · intro p hp
    rcases List.mem_cons.mp hp with rfl | hp
    · use .head _, r, hself.trans hr
      exact r.run_again List.prefix_rfl
    · obtain ⟨hm, r', hr', hanswer, htable⟩ := h.settled p hp
      have hgrown : (r'.run env s.table).table.entries <+: (s.serve env n r).table.entries := by
        rw [htable]
        exact hprefix
      obtain ⟨hanswer', htable'⟩ := r'.run_again hgrown
      use .tail _ hm, r', (hrequest p.1 hm).trans hr', hanswer'.trans hanswer, htable'

/-- A query whose source is done keeps a session consistent. -/
theorem step (h : Consistent env queries t done s)
    (hn : ∀ m ∈ (queries n).source?, m ∈ done) :
  Consistent env queries t (n :: done) (s.step env queries n)
  := by
  cases hr : s.request? queries n with
  | none =>
    rw [Session.step, hr]
    exact h.skip hr hn
  | some r =>
    rw [Session.step, hr]
    exact h.serve hr hn

/-- An ordered schedule keeps a session consistent. -/
theorem run (h : Consistent env queries t done s) (hns : Ordered queries done ns) :
  Consistent env queries t (ns.reverse ++ done) (s.run env queries ns)
  := by
  induction ns generalizing done s with
  | nil => exact h
  | cons n ns ih =>
    rw [List.reverse_cons, List.append_assoc]
    exact ih (h.step hns.1) hns.2

end Consistent

/-- After an ordered schedule a session is consistent. -/
theorem consistent_run (env : Collaborators) (t : VariableTable) (h : Ordered queries [] ns) :
  Consistent env queries t ns.reverse (run env queries ⟨t, []⟩ ns)
  := by
  simpa using (consistent_start t).run h

end Session

end VirtualFields
