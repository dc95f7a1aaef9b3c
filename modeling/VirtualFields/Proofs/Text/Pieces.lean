import Mathlib.Data.List.Basic
import VirtualFields.Proofs.Text.Literals

/-!
# Pieces of texts with quotes

A text that may contain quoted literals is cut at the separators that stand outside quotes.  A
piece without such separators that ends outside quotes is cut off as it is
(`Text.Unbroken.pieces_append`), and literals are such pieces, whatever they hold
(`Constant.unbroken_literal`).
-/

namespace VirtualFields

namespace Text

/-- Where a reader of a text with quotes stands. -/
inductive Quoting where
  | outside
  /-- In a literal that ends with a quote. -/
  | inside (q : Char)
  /-- In a literal, after a backslash. -/
  | escaped (q : Char)
  deriving DecidableEq

namespace Quoting

/-- Where a reader stands after a character. -/
def next : Quoting → Char → Quoting
  | outside, c => if c = '\'' ∨ c = '"' then inside c else outside
  | inside q, c => if c = '\\' then escaped q else if c = q then outside else inside q
  | escaped q, _ => inside q

theorem next_outside {c : Char} (hc : c ∉ delimiters) :
  outside.next c = outside
  := by
  simp only [delimiters, List.mem_cons, not_or] at hc
  rw [next, if_neg]
  tauto

theorem next_inside {c q : Char} (hc : c ∉ delimiters) (hq : q ∈ delimiters) :
  (inside q).next c = inside q
  := by
  rw [next, if_neg, if_neg]
  · rintro rfl
    exact hc hq
  · rintro rfl
    exact hc (by decide)

end Quoting

/-- The pieces of a text between the separators that stand outside quotes. -/
def pieces (sep : Char) : Quoting → List Char → List (List Char)
  | _, [] => [[]]
  | m, c :: cs =>
    if m = .outside ∧ c = sep then [] :: pieces sep .outside cs
    else (pieces sep (m.next c) cs).modifyHead (c :: ·)

/-- A text that holds no separator outside quotes, read from one place to another. -/
inductive Unbroken (sep : Char) : Quoting → List Char → Quoting → Prop where
  | nil (m) : Unbroken sep m [] m
  | cons {m c cs m'} (hc : m = .outside → c ≠ sep) (hcs : Unbroken sep (m.next c) cs m') :
      Unbroken sep m (c :: cs) m'

variable {sep : Char} {m m' m'' : Quoting} {cs ds : List Char}

theorem pieces_ne_nil (sep : Char) (m : Quoting) (cs : List Char) :
  pieces sep m cs ≠ []
  := by
  fun_induction pieces sep m cs with
  | case1 | case2 => simp
  | case3 _ _ _ _ ih => simpa using ih

namespace Unbroken

theorem append (hcs : Unbroken sep m cs m') (hds : Unbroken sep m' ds m'') :
  Unbroken sep m (cs ++ ds) m''
  := by
  induction hcs with
  | nil => apply hds
  | cons hc _ ih => apply cons hc (ih hds)

/-- What is unbroken goes with the piece that follows. -/
theorem pieces_append_eq (hcs : Unbroken sep m cs m') (ds : List Char) :
  pieces sep m (cs ++ ds) = (pieces sep m' ds).modifyHead (cs ++ ·)
  := by
  induction hcs with
  | nil m =>
    symm
    apply congrFun List.modifyHead_id
  | @cons m c cs m' hc _ ih =>
    rw [List.cons_append, pieces, if_neg, ih, List.modifyHead_modifyHead]
    · rfl
    · rintro ⟨hm, rfl⟩
      exact hc hm rfl

theorem pieces_eq (hcs : Unbroken sep m cs m') :
  pieces sep m cs = [cs]
  := by
  have h := hcs.pieces_append_eq []
  rwa [List.append_nil, pieces, List.modifyHead_cons, List.append_nil] at h

/-- What is unbroken up to a separator is a piece. -/
theorem pieces_append (hcs : Unbroken sep m cs .outside) (ds : List Char) :
  pieces sep m (cs ++ sep :: ds) = cs :: pieces sep .outside ds
  := by
  rw [hcs.pieces_append_eq, pieces, if_pos ⟨rfl, rfl⟩, List.modifyHead_cons, List.append_nil]

end Unbroken

/-- A text that is cut at one separator is cut apart from what follows another if the latter
stands outside quotes. -/
theorem pieces_append {sep' : Char} (hsep : sep ∉ delimiters) (hcs : Unbroken sep' m cs .outside)
    (ds : List Char) :
  pieces sep m (cs ++ sep :: ds) = pieces sep m cs ++ pieces sep .outside ds
  := by
  generalize hm' : Quoting.outside = m' at hcs
  induction hcs with
  | nil m =>
    subst hm'
    simp [pieces]
  | @cons m c cs m' _ _ ih =>
    rw [List.cons_append, pieces, pieces]
    split_ifs with h
    · -- A separator is no quote, so the text after it is read from outside quotes as well.
      obtain ⟨rfl, rfl⟩ := h
      rw [Quoting.next_outside hsep] at ih
      rw [ih hm', List.cons_append]
    · obtain ⟨p, ps, hps⟩ := List.exists_cons_of_ne_nil (pieces_ne_nil sep (m.next c) cs)
      rw [ih hm', hps]
      rfl

/-! ### Plain text and literals -/

/-- Whether a character is neither the separator nor a quote or a backslash. -/
def isOrdinary (sep c : Char) : Bool :=
  c ≠ sep && c ∉ delimiters

/-- Text without separators and quotes is unbroken. -/
theorem unbroken_outside (hcs : cs.all (isOrdinary sep)) :
  Unbroken sep .outside cs .outside
  := by
  induction cs with
  | nil => apply Unbroken.nil
  | cons c cs ih =>
    rw [List.all_cons, Bool.and_eq_true] at hcs
    obtain ⟨hc, hcs⟩ := hcs
    rw [isOrdinary, Bool.and_eq_true, decide_eq_true_eq, decide_eq_true_eq] at hc
    apply Unbroken.cons fun _ => hc.1
    rw [Quoting.next_outside hc.2]
    apply ih hcs

/-- Inside quotes, text without quotes and backslashes is unbroken. -/
theorem unbroken_inside {q : Char} (hq : q ∈ delimiters) (hcs : ∀ c ∈ cs, c ∉ delimiters) :
  Unbroken sep (.inside q) cs (.inside q)
  := by
  induction cs with
  | nil => apply Unbroken.nil
  | cons c cs ih =>
    obtain ⟨hc, hcs⟩ := List.forall_mem_cons.mp hcs
    apply Unbroken.cons (by simp)
    rw [Quoting.next_inside hc hq]
    apply ih hcs

/-- Inside quotes, a backslash and the character after it are unbroken. -/
theorem unbroken_escape (sep q c : Char) :
  Unbroken sep (.inside q) ['\\', c] (.inside q)
  := by
  apply Unbroken.cons (by simp)
  apply Unbroken.cons (by simp [Quoting.next])
  apply Unbroken.nil

/-- Inside quotes, texts of codes are unbroken: they do not contain the closing quote. -/
theorem Escaped.unbroken {q : Char} (hq : q ∈ delimiters) (h : Escaped cs) :
  Unbroken sep (.inside q) cs (.inside q)
  := by
  induction h with
  | nil => apply Unbroken.nil
  | @plain c cs _ hc _ ih =>
    have h : Unbroken sep (.inside q) [c] (.inside q) := unbroken_inside hq (by simpa using hc)
    apply h.append ih
  | @letter c cs _ _ ih => apply (unbroken_escape sep q c).append ih
  | @number ds cs _ hds _ ih =>
    apply (unbroken_escape sep q 'u').append
    have h := (unbroken_inside hq (not_mem_delimiters hds)).append ih
    rwa [List.append_assoc] at h

/-- A text of codes between quotes is unbroken. -/
theorem Escaped.unbroken_quoted {q : Char} (hq : q = '\'' ∨ q = '"') (hsep : sep ∉ delimiters)
    (h : Escaped cs) :
  Unbroken sep .outside (q :: cs ++ [q]) .outside
  := by
  have hmem : q ∈ delimiters := by
    rcases hq with rfl | rfl
    · decide
    · decide
  have hopen : Quoting.outside.next q = .inside q := if_pos hq
  have hclose : (Quoting.inside q).next q = .outside := by
    rw [Quoting.next, if_neg, if_pos rfl]
    rcases hq with rfl | rfl
    · decide
    · decide
  apply Unbroken.cons
  · rintro - rfl
    exact hsep hmem
  · rw [hopen]
    apply (h.unbroken hmem).append
    apply Unbroken.cons (by simp)
    rw [hclose]
    apply Unbroken.nil

end Text

namespace Constant

/-- A character that may separate literals: neither a quote nor a backslash, and in no number and
no word. -/
def IsSeparator (sep : Char) : Prop :=
  sep ∉ Text.delimiters ∧ ¬ isPlain sep

instance (sep : Char) : Decidable (IsSeparator sep) :=
  inferInstanceAs (Decidable (_ ∧ _))

/-- Numbers and words are unbroken. -/
theorem unbroken_plain {sep : Char} (hsep : IsSeparator sep) {cs : List Char}
    (hcs : ∀ c ∈ cs, isPlain c) :
  Text.Unbroken sep .outside cs .outside
  := by
  have hdelimiters : ∀ c ∈ Text.delimiters, !isPlain c := List.all_eq_true.mp rfl
  apply Text.unbroken_outside
  rw [List.all_eq_true]
  intro c hc
  have hplain := hcs c hc
  rw [Text.isOrdinary, Bool.and_eq_true, decide_eq_true_eq, decide_eq_true_eq]
  constructor
  · rintro rfl
    exact hsep.2 hplain
  · intro hmem
    have hnot := hdelimiters c hmem
    rw [hplain] at hnot
    cases hnot

/-- Literals are unbroken. -/
theorem unbroken_literal {sep : Char} (hsep : IsSeparator sep) (c : Constant) :
  Text.Unbroken sep .outside c.literal.toList .outside
  := by
  cases hq : c.quote? with
  | none =>
    apply unbroken_plain hsep (isPlain_of_mem hq)
  | some q =>
    obtain ⟨payload, hpayload, hescaped⟩ := exists_payload hq
    rw [hpayload]
    apply hescaped.unbroken_quoted (quote?_cases hq) hsep.1

end Constant

end VirtualFields
