import Mathlib.Data.List.Basic
import VirtualFields.Text.QualifiedName

/-!
# The grammar of qualified names

A string without a dot is a qualified name if it is an identifier, and two strings with a dot
between them are one if both are.  Every string is built in these two ways, so the two laws say
which strings are qualified names: identifiers that are joined by dots
(`Text.isQualifiedName_iff_join`).
-/

namespace VirtualFields.Text

/-! ### Characters of identifiers -/

theorem isNamePart_of_isNameStart {c : Char} (h : isNameStart c) :
  isNamePart c
  := by
  simp only [isNameStart, isNamePart, isAlphanumeric, Bool.or_eq_true] at h ⊢
  tauto

theorem isNamePart_of_mem {cs : List Char} {c : Char} (h : isIdentifier cs) (hc : c ∈ cs) :
  isNamePart c
  := by
  cases cs with
  | nil => cases hc
  | cons d ds =>
    rw [isIdentifier, Bool.and_eq_true, List.all_eq_true] at h
    rcases List.mem_cons.mp hc with rfl | hc
    · apply isNamePart_of_isNameStart h.1
    · apply h.2 c hc

/-- An identifier: a character that is alphabetic, an underscore or a dollar sign, and any number
of characters that are alphanumeric, underscores or dollar signs. -/
def IsIdentifier (s : String) : Prop :=
  ∃ c cs, s.toList = c :: cs ∧ (isAlphabetic c ∨ c = '_' ∨ c = '$')
    ∧ ∀ d ∈ cs, isAlphanumeric d ∨ d = '_' ∨ d = '$'

theorem isIdentifier_iff {s : String} :
  isIdentifier s.toList ↔ IsIdentifier s
  := by
  cases hs : s.toList with
  | nil => simp [isIdentifier, IsIdentifier, hs]
  | cons c cs =>
    simp only [isIdentifier, isNameStart, isNamePart, Bool.and_eq_true, List.all_eq_true,
      Bool.or_eq_true, decide_eq_true_eq, or_assoc]
    constructor
    · intro h
      use c, cs, hs, h.1, h.2
    · rintro ⟨d, ds, hd, h⟩
      obtain ⟨rfl, rfl⟩ := List.cons.inj (hs.symm.trans hd)
      apply h

theorem IsIdentifier.not_mem_dot {s : String} (h : IsIdentifier s) :
  '.' ∉ s.toList
  := by
  intro hdot
  have hpart : isNamePart '.' := isNamePart_of_mem (isIdentifier_iff.mpr h) hdot
  exact absurd hpart (by decide +kernel)

/-! ### The laws of qualified names -/

theorem segments_eq_splitOn (cs : List Char) :
  segments cs = cs.splitOn '.'
  := by
  fun_induction segments cs with
  | case1 => rfl
  | case2 cs ih => rw [List.splitOn_cons_eq_if_modifyHead, if_pos (by rfl), ih]
  | case3 c cs hdot ih =>
    rw [List.splitOn_cons_eq_if_modifyHead, if_neg (by simpa using hdot), ih]

/-- Two strings with a dot between them are a qualified name if both are. -/
theorem isQualifiedName_append (a b : String) :
  isQualifiedName (a ++ "." ++ b) = (isQualifiedName a && isQualifiedName b)
  := by
  have hlist : (a ++ "." ++ b).toList = a.toList ++ '.' :: b.toList := by simp
  simp only [isQualifiedName, segments_eq_splitOn, hlist, List.splitOn_append_cons_self,
    List.all_append]

/-- A string without a dot is a qualified name if it is an identifier. -/
theorem isQualifiedName_of_not_mem_dot {s : String} (hdot : '.' ∉ s.toList) :
  isQualifiedName s ↔ IsIdentifier s
  := by
  rw [isQualifiedName, segments_eq_splitOn, List.splitOn_eq_singleton hdot, List.all_cons,
    List.all_nil, Bool.and_true, isIdentifier_iff]

theorem isQualifiedName_empty :
  isQualifiedName "" = false
  := by
  decide

/-! ### Strings and their dots -/

/-- Every string is built from strings without a dot by setting dots between two. -/
theorem dotInduction {P : String → Prop} (piece : ∀ s, '.' ∉ s.toList → P s)
    (join : ∀ a b, P a → P b → P (a ++ "." ++ b)) (s : String) :
  P s
  := by
  by_cases hdot : '.' ∈ s.toList
  · obtain ⟨a, b, hs⟩ := List.append_of_mem hdot
    have hjoin : s = String.ofList a ++ "." ++ String.ofList b := by
      rw [← String.toList_inj, hs]
      simp
    rw [hjoin]
    apply join
    · apply dotInduction piece join (String.ofList a)
    · apply dotInduction piece join (String.ofList b)
  · apply piece s hdot
  termination_by s.toList.length
  decreasing_by
    all_goals
      simp only [hs, String.toList_ofList, List.length_append, List.length_cons]
      omega

variable {p q : String → Bool}

/-- A predicate that splits at dots holds of a join if it holds of what is joined. -/
theorem join_eq_all (hp : ∀ a b, p (a ++ "." ++ b) = (p a && p b)) {names : List String}
    (hne : names ≠ []) :
  p (".".intercalate names) = names.all p
  := by
  induction names with
  | nil => contradiction
  | cons n names ih =>
    by_cases hnil : names = []
    · simp [hnil]
    · rw [String.intercalate_cons_of_ne_nil hnil, hp, ih hnil, List.all_cons]

/-- Predicates that split at dots are the same if they are on strings without a dot. -/
theorem eq_of_split (hp : ∀ a b, p (a ++ "." ++ b) = (p a && p b))
    (hq : ∀ a b, q (a ++ "." ++ b) = (q a && q b)) (hpq : ∀ s, '.' ∉ s.toList → p s = q s) :
  p = q
  := by
  funext s
  induction s using dotInduction with
  | piece s hdot => apply hpq s hdot
  | join a b iha ihb => rw [hp, hq, iha, ihb]

/-- A qualified name joins identifiers by dots. -/
theorem exists_join_of_isQualifiedName {s : String} (h : isQualifiedName s) :
  ∃ names : List String, names ≠ [] ∧ (∀ n ∈ names, IsIdentifier n) ∧ s = ".".intercalate names
  := by
  induction s using dotInduction with
  | piece s hdot =>
    use [s], List.cons_ne_nil s []
    simpa using (isQualifiedName_of_not_mem_dot hdot).mp h
  | join a b iha ihb =>
    rw [isQualifiedName_append, Bool.and_eq_true] at h
    obtain ⟨as, has, hidentifiers, rfl⟩ := iha h.1
    obtain ⟨bs, hbs, hidentifiers', rfl⟩ := ihb h.2
    use as ++ bs, List.append_ne_nil_of_left_ne_nil has bs
    rw [String.intercalate_append_of_ne_nil has hbs]
    use List.forall_mem_append.mpr ⟨hidentifiers, hidentifiers'⟩

/-- Joined identifiers are a qualified name. -/
theorem isQualifiedName_join {names : List String} (hne : names ≠ [])
    (hidentifiers : ∀ n ∈ names, IsIdentifier n) :
  isQualifiedName (".".intercalate names)
  := by
  rw [join_eq_all isQualifiedName_append hne, List.all_eq_true]
  intro n hn
  have hn := hidentifiers n hn
  apply (isQualifiedName_of_not_mem_dot hn.not_mem_dot).mpr hn

/-- The qualified names are the joins of one or more identifiers by dots.  The test for them is the
only predicate that splits at dots and is the test for identifiers on strings without a dot.  So no
qualified name is empty, and a dot stands neither at the beginning or the end of one nor beside
another dot. -/
theorem isQualifiedName_iff_join :
  (∀ s, isQualifiedName s ↔ ∃ names : List String,
      names ≠ [] ∧ (∀ n ∈ names, IsIdentifier n) ∧ s = ".".intercalate names)
    ∧ (∀ p : String → Bool, p = isQualifiedName ↔
        (∀ a b, p (a ++ "." ++ b) = (p a && p b))
          ∧ ∀ s, '.' ∉ s.toList → (p s ↔ IsIdentifier s))
    ∧ isQualifiedName "" = false
    ∧ (∀ s, isQualifiedName ("." ++ s) = false)
    ∧ (∀ s, isQualifiedName (s ++ ".") = false)
    ∧ ∀ a b, isQualifiedName (a ++ ".." ++ b) = false
  := by
  and_intros
  · intro s
    constructor
    · apply exists_join_of_isQualifiedName
    · rintro ⟨names, hne, hidentifiers, rfl⟩
      apply isQualifiedName_join hne hidentifiers
  · intro p
    constructor
    · rintro rfl
      use isQualifiedName_append
      intro s
      apply isQualifiedName_of_not_mem_dot
    · rintro ⟨hsplit, hpiece⟩
      apply eq_of_split hsplit isQualifiedName_append
      intro s hdot
      rw [Bool.eq_iff_iff, hpiece s hdot, isQualifiedName_of_not_mem_dot hdot]
  · apply isQualifiedName_empty
  · intro s
    have hsplit := isQualifiedName_append "" s
    rwa [isQualifiedName_empty, Bool.false_and, String.empty_append] at hsplit
  · intro s
    have hsplit := isQualifiedName_append s ""
    rwa [isQualifiedName_empty, Bool.and_false, String.append_empty] at hsplit
  · intro a b
    have hdots : a ++ ".." ++ b = a ++ "." ++ ("" ++ "." ++ b) := by
      rw [← String.toList_inj]
      simp
    rw [hdots, isQualifiedName_append, isQualifiedName_append, isQualifiedName_empty,
      Bool.false_and, Bool.and_false]

/-- A class inside a class of a package, and a name with two dots. -/
theorem isQualifiedName_iff_join_inner :
  '.' ∉ "Größe$1".toList ∧ IsIdentifier "Größe$1"
    ∧ isQualifiedName ("com.example" ++ "." ++ "Größe$1")
    ∧ ¬ ∃ names : List String,
        names ≠ [] ∧ (∀ n ∈ names, IsIdentifier n)
          ∧ "com" ++ ".." ++ "Broken" = ".".intercalate names
  := by
  obtain ⟨hjoin, hlaws, -, -, -, hdots⟩ := isQualifiedName_iff_join
  obtain ⟨hsplit, hpiece⟩ := (hlaws isQualifiedName).mp rfl
  have hdot : '.' ∉ "Größe$1".toList := by decide
  have hinner : isQualifiedName "Größe$1" := by decide +kernel
  have houter : isQualifiedName "com.example" := by decide +kernel
  use hdot, (hpiece _ hdot).mp hinner
  constructor
  · rw [hsplit, houter, hinner, Bool.and_self]
  · intro hbroken
    have hname := (hjoin _).mpr hbroken
    rw [hdots] at hname
    cases hname

end VirtualFields.Text
