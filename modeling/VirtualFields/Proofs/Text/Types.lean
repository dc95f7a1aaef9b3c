import VirtualFields.Proofs.Text.QualifiedNames
import VirtualFields.Ty.Basic
import VirtualFields.Ty.ClassName

/-!
# Reading types

A type is read from its text character by character, with the class types whose argument lists are
open on a stack.  A word ends where punctuation begins, an array type is known only by the brackets
after its elements, and a closing angle bracket completes the class type that was opened last.  If
the class names are qualified names and no keywords, reading gives back the type that was written
(`Ty.ofText_text`), so types with the same text are the same (`Ty.text_eq_text_iff`).
-/

namespace VirtualFields

namespace Text

/-! ### Characters of qualified names -/

/-- A character of a word: one that names are made of, or the dot between two of them. -/
def IsWordChar (c : Char) : Prop :=
  isNamePart c ∨ c = '.'

/-- A qualified name consists of the characters of words. -/
theorem isWordChar_of_mem {s : String} {c : Char} (h : isQualifiedName s) (hc : c ∈ s.toList) :
  IsWordChar c
  := by
  induction s using dotInduction with
  | piece s hdot =>
    have hidentifier : IsIdentifier s := (isQualifiedName_of_not_mem_dot hdot).mp h
    left
    apply isNamePart_of_mem (isIdentifier_iff.mpr hidentifier) hc
  | join a b iha ihb =>
    rw [isQualifiedName_append, Bool.and_eq_true] at h
    simp only [String.toList_append, List.mem_append] at hc
    rcases hc with (hc | hc) | hc
    · apply iha h.1 hc
    · right
      simpa using hc
    · apply ihb h.2 hc

/-- The punctuation of types. -/
def punctuation : List Char :=
  ['<', '>', ',', ' ', '[', ']']

theorem not_isWordChar {c : Char} (h : c ∈ punctuation) :
  ¬ IsWordChar c
  := by
  have hname : ∀ c ∈ punctuation, !isNamePart c := List.all_eq_true.mp (by decide +kernel)
  rintro (hc | rfl)
  · have hnot := hname c h
    rw [hc] at hnot
    cases hnot
  · exact absurd h (by decide)

end Text

namespace Ty

mutual

/-- The class names in a type. -/
def classNames : Ty → List String
  | .primitive _ => []
  | .named c args => c :: classNamesOf args
  | .array e => e.classNames

/-- The class names in a list of types. -/
def classNamesOf : List Ty → List String
  | [] => []
  | a :: args => a.classNames ++ classNamesOf args

end

/-- The class names in a type are qualified names, and none of them is the keyword of a primitive
type. -/
def WellNamed (t : Ty) : Prop :=
  ∀ c ∈ t.classNames, Text.isQualifiedName c ∧ ∀ p ∈ Primitive.all, c ≠ p.keyword

instance (t : Ty) : Decidable t.WellNamed :=
  inferInstanceAs (Decidable (∀ c ∈ t.classNames, _))

/-! ### The reader -/

/-- The type whose text is a word: a primitive type if the word is its keyword. -/
def ofWord (s : String) : Ty :=
  match Primitive.all.find? (·.keyword = s) with
  | some p => .primitive p
  | none => .raw s

/-- What has been read of the innermost type that is not complete. -/
inductive Progress where
  /-- The characters of a word. -/
  | word (cs : List Char)
  /-- A type that may turn out to be the element type of an array. -/
  | type (t : Ty)

namespace Progress

/-- The text of a word. -/
def name : Progress → String
  | word cs => String.ofList cs
  | type t => t.text

/-- The type that has been read if nothing of it follows. -/
def toTy : Progress → Ty
  | word cs => ofWord (String.ofList cs)
  | type t => t

/-- A word with another character. -/
def extend (c : Char) : Progress → Progress
  | word cs => word (cs ++ [c])
  | type t => type t

end Progress

/-- A state of the reader. -/
structure Reader where
  progress : Progress
  /-- The classes whose argument lists are open, innermost first, each with its complete
  arguments. -/
  pending : List (String × List Ty)

namespace Reader

/-- A reader at the beginning of a type. -/
def start (pending : List (String × List Ty)) : Reader :=
  ⟨.word [], pending⟩

/-- The open argument lists with the type that has been read for the next argument. -/
def argued (r : Reader) : List (String × List Ty) :=
  r.pending.modifyHead fun (c, args) => (c, args ++ [r.progress.toTy])

/-- The reader after an argument list. -/
def close (r : Reader) : Reader :=
  match r.argued with
  | [] => r
  | (c, args) :: k => ⟨.type (.named c args), k⟩

/-- The reader after a character. -/
def step (r : Reader) : Char → Reader
  | '<' => start ((r.progress.name, []) :: r.pending)
  | ',' => start r.argued
  | '>' => r.close
  | ']' => ⟨.type (.array r.progress.toTy), r.pending⟩
  | ' ' | '[' => r
  | c => { r with progress := r.progress.extend c }

/-- The reader after a list of characters. -/
def read (r : Reader) (cs : List Char) : Reader :=
  cs.foldl step r

@[simp]
theorem read_append (r : Reader) (cs ds : List Char) :
  r.read (cs ++ ds) = (r.read cs).read ds
  := List.foldl_append

@[simp]
theorem read_cons (r : Reader) (c : Char) (cs : List Char) :
  r.read (c :: cs) = (r.step c).read cs
  := rfl

@[simp]
theorem read_nil (r : Reader) :
  r.read [] = r
  := rfl

theorem step_of_isWordChar {c : Char} (h : Text.IsWordChar c) (r : Reader) :
  r.step c = { r with progress := r.progress.extend c }
  := by
  have hnot (hc : c ∈ Text.punctuation) : False := Text.not_isWordChar hc h
  fun_cases step r c with
  | case7 => rfl
  | _ => exact (hnot (by simp [Text.punctuation])).elim

/-- A word is read character by character. -/
theorem read_word {cs : List Char} (hcs : ∀ c ∈ cs, Text.IsWordChar c) (ds : List Char)
    (k : List (String × List Ty)) :
  read ⟨.word ds, k⟩ cs = ⟨.word (ds ++ cs), k⟩
  := by
  induction cs generalizing ds with
  | nil => rw [read_nil, List.append_nil]
  | cons c cs ih =>
    obtain ⟨hc, hcs⟩ := List.forall_mem_cons.mp hcs
    rw [read_cons, step_of_isWordChar hc, Progress.extend, ih hcs, List.append_assoc,
      List.singleton_append]

end Reader

/-- The type that a text denotes. -/
def ofText (s : String) : Ty :=
  ((Reader.start []).read s.toList).progress.toTy

/-! ### Words -/

theorem ofWord_keyword (p : Primitive) :
  ofWord p.keyword = .primitive p
  := by
  cases p with
  | _ => rfl

theorem ofWord_of_ne_keyword {c : String} (h : ∀ p ∈ Primitive.all, c ≠ p.keyword) :
  ofWord c = .raw c
  := by
  have hnone : Primitive.all.find? (·.keyword = c) = none := by
    rw [List.find?_eq_none]
    intro p hp
    simpa using (h p hp).symm
  rw [ofWord, hnone]

theorem isWordChar_of_mem_keyword {p : Primitive} {c : Char} (h : c ∈ p.keyword.toList) :
  Text.IsWordChar c
  := by
  have hall : ∀ p ∈ Primitive.all, p.keyword.toList.all Text.isNamePart := by decide +kernel
  left
  apply List.all_eq_true.mp (hall p p.mem_all) c h

/-! ### Texts of class types -/

theorem classNamesOf_eq (args : List Ty) :
  classNamesOf args = args.flatMap classNames
  := by
  induction args with
  | nil => rfl
  | cons a args ih => rw [classNamesOf, ih, List.flatMap_cons]

theorem wellNamed_named_iff {c : String} {args : List Ty} :
  (named c args).WellNamed ↔
    (Text.isQualifiedName c ∧ ∀ p ∈ Primitive.all, c ≠ p.keyword) ∧ ∀ a ∈ args, a.WellNamed
  := by
  simp only [WellNamed, classNames, classNamesOf_eq, List.forall_mem_cons, List.mem_flatMap]
  grind

/-- The characters of the arguments after the first. -/
def argChars (args : List Ty) : List Char :=
  args.flatMap fun a => ',' :: ' ' :: a.text.toList

theorem toList_argTexts (args : List Ty) :
  (argTexts args).toList = argChars args
  := by
  induction args with
  | nil => rfl
  | cons a args ih =>
    rw [argTexts, String.toList_append, String.toList_append, ih]
    rfl

theorem toList_text_named_cons (c : String) (a : Ty) (args : List Ty) :
  (named c (a :: args)).text.toList
    = c.toList ++ '<' :: (a.text.toList ++ (argChars args ++ ['>']))
  := by
  simp [text, toList_argTexts]

/-! ### Reading what is written -/

/-- A reader that begins with the text of a type has read the type when the text ends, and the
open argument lists are as before. -/
def Readable (t : Ty) : Prop :=
  ∀ k, ∃ p : Progress, (Reader.start k).read t.text.toList = ⟨p, k⟩ ∧ p.toTy = t

/-- Arguments are read one after the other. -/
theorem read_argChars {args : List Ty} (h : ∀ a ∈ args, a.Readable) (p : Progress) (c : String)
    (done : List Ty) (k : List (String × List Ty)) :
  ∃ (p' : Progress) (done' : List Ty),
    Reader.read ⟨p, (c, done) :: k⟩ (argChars args) = ⟨p', (c, done') :: k⟩
      ∧ done' ++ [p'.toTy] = done ++ p.toTy :: args
  := by
  induction args generalizing p done with
  | nil => use p, done, rfl
  | cons a args ih =>
    obtain ⟨ha, hargs⟩ := List.forall_mem_cons.mp h
    obtain ⟨q, hq, rfl⟩ := ha ((c, done ++ [p.toTy]) :: k)
    obtain ⟨p', done', hread, hdone⟩ := ih hargs q (done ++ [p.toTy])
    use p', done'
    constructor
    · rw [argChars, List.flatMap_cons, ← argChars, Reader.read_append, Reader.read_cons,
        Reader.read_cons, ← hread, ← hq]
      rfl
    · rw [hdone, List.append_assoc, List.singleton_append]

theorem WellNamed.readable {t : Ty} (h : t.WellNamed) :
  t.Readable
  := by
  induction t using Ty.induction with
  | primitive p =>
    intro k
    use .word p.keyword.toList
    constructor
    · apply Reader.read_word fun _ => isWordChar_of_mem_keyword
    · rw [Progress.toTy, String.ofList_toList, ofWord_keyword]
  | named c args ih =>
    intro k
    obtain ⟨⟨hname, hkeyword⟩, hargs⟩ := wellNamed_named_iff.mp h
    have hword : (Reader.start k).read c.toList = ⟨.word c.toList, k⟩ :=
      Reader.read_word (fun _ => Text.isWordChar_of_mem hname) _ _
    -- Without arguments nothing ends the word; with arguments the bracket does, and the class
    -- waits on the stack until the bracket is closed.
    cases args with
    | nil =>
      use .word c.toList, hword
      rw [Progress.toTy, String.ofList_toList, ofWord_of_ne_keyword hkeyword]
      rfl
    | cons a args =>
      obtain ⟨ha, hrest⟩ := List.forall_mem_cons.mp hargs
      obtain ⟨q, hq, rfl⟩ := ih _ List.mem_cons_self ha ((c, []) :: k)
      have hreadable (a) (hmem : a ∈ args) : a.Readable :=
        ih a (List.mem_cons_of_mem _ hmem) (hrest a hmem)
      obtain ⟨p, done, hp, hdone⟩ := read_argChars hreadable q c [] k
      use .type (.named c (done ++ [p.toTy]))
      constructor
      · rw [toList_text_named_cons, Reader.read_append, hword, Reader.read_cons]
        have hopen : Reader.step ⟨.word c.toList, k⟩ '<' = Reader.start ((c, []) :: k) := by
          rw [Reader.step, Progress.name, String.ofList_toList]
        rw [hopen, Reader.read_append, hq, Reader.read_append, hp]
        rfl
      · rw [Progress.toTy, hdone, List.nil_append]
  | array e ih =>
    intro k
    obtain ⟨p, hp, he⟩ := ih h k
    use .type (.array e)
    constructor
    · rw [text, String.toList_append, Reader.read_append, hp, ← he]
      rfl
    · rfl

/-- Reading the text of a type gives the type. -/
theorem ofText_text {t : Ty} (h : t.WellNamed) :
  ofText t.text = t
  := by
  obtain ⟨p, hp, ht⟩ := h.readable []
  rw [ofText, hp, ht]

/-- Types whose class names are qualified names and no keywords have the same text only if they
are the same. -/
theorem text_eq_text_iff {s t : Ty} (hs : s.WellNamed) (ht : t.WellNamed) :
  s.text = t.text ↔ s = t
  := by
  constructor
  · intro h
    rw [← ofText_text hs, ← ofText_text ht, h]
  · intro h
    rw [h]

/-- Maps from arrays of lists, and from lists of arrays, have different texts. -/
theorem text_eq_text_iff_maps :
  let lists (a : Ty) : Ty := .named "java.util.List" [a]
  let maps (a : Ty) : Ty := .named ClassName.map [a, .int]
  let s := maps (.array (lists (.raw ClassName.string)))
  let t := maps (lists (.array (.raw ClassName.string)))
  s.WellNamed ∧ t.WellNamed ∧ s.text ≠ t.text
  := by
  intro lists maps s t
  have hs : s.WellNamed := by decide +kernel
  have ht : t.WellNamed := by decide +kernel
  use hs, ht
  rw [Ne, text_eq_text_iff hs ht]
  decide +kernel

/-- A class that is named like a keyword has the text of the primitive type. -/
example : (raw "int").text = Ty.int.text := rfl

end Ty

end VirtualFields
