import Mathlib.Data.List.Basic
import Mathlib.Data.Nat.Digits.Defs
import VirtualFields.Constant

/-!
# Reading literals

Escaped text is a sequence of codes, each of which ends where its form says, so it can be read
back character by character (`Text.unescape_escape`), and no quote and no backslash stands in it
that belongs to no code (`Text.escaped_escape`).  The first character of a literal tells what kind
of constant it denotes, and every literal can be read back (`Constant.literal_decodes`).
-/

namespace VirtualFields

namespace Text

/-! ### Hexadecimal digits -/

/-- The hexadecimal digits in order. -/
def hexDigits : List Char :=
  ['0', '1', '2', '3', '4', '5', '6', '7', '8', '9', 'a', 'b', 'c', 'd', 'e', 'f']

/-- The value of a hexadecimal digit. -/
def hexValue (c : Char) : Nat :=
  hexDigits.idxOf c

/-- The number that a list of hexadecimal digits continues another number to. -/
def ofHexDigits (n : Nat) (ds : List Char) : Nat :=
  ds.foldl (fun n d => 16 * n + hexValue d) n

theorem ofHexDigits_concat (n : Nat) (ds : List Char) (d : Char) :
  ofHexDigits n (ds ++ [d]) = 16 * ofHexDigits n ds + hexValue d
  := by
  simp [ofHexDigits]

theorem digitChar_mem {n : Nat} (h : n < 16) :
  n.digitChar ∈ hexDigits
  := by
  revert n
  decide

theorem hexValue_digitChar {n : Nat} (h : n < 16) :
  hexValue n.digitChar = n
  := by
  revert n
  decide

theorem mem_hexDigits {n : Nat} {c : Char} (h : c ∈ Nat.toDigits 16 n) :
  c ∈ hexDigits
  := by
  induction n using Nat.strongRecOn with
  | ind n ih =>
    rw [Nat.toDigits_eq_if (by decide)] at h
    split_ifs at h with hn
    · rw [List.mem_singleton.mp h]
      apply digitChar_mem hn
    · rcases List.mem_append.mp h with h | h
      · apply ih (n / 16) (by omega) h
      · rw [List.mem_singleton.mp h]
        apply digitChar_mem (Nat.mod_lt n (by decide))

/-- The digits of a number are read as the number. -/
theorem ofHexDigits_toDigits (n : Nat) :
  ofHexDigits 0 (Nat.toDigits 16 n) = n
  := by
  induction n using Nat.strongRecOn with
  | ind n ih =>
    rw [Nat.toDigits_eq_if (by decide)]
    split_ifs with hn
    · rw [ofHexDigits, List.foldl_cons, List.foldl_nil, hexValue_digitChar hn]
      omega
    · rw [ofHexDigits_concat, ih (n / 16) (by omega), hexValue_digitChar (by omega)]
      omega

/-! ### Escaped text -/

theorem isPrintable_of_between {c lo hi : Char} (hlo : lo.val ≤ c.val) (hhi : c.val ≤ hi.val)
    (hspace : ' '.val ≤ lo.val) (htilde : hi.val ≤ '~'.val) :
  isPrintable c
  := by
  rw [isPrintable, Bool.and_eq_true, decide_eq_true_eq, decide_eq_true_eq]
  exact ⟨UInt32.le_trans hspace hlo, UInt32.le_trans hhi htilde⟩

/-- The characters that may follow a backslash and make a code with it. -/
def codeLetters : List Char :=
  ['t', 'r', 'n', '\'', '"', '\\']

/-- The characters that stand for themselves only if they are escaped. -/
def delimiters : List Char :=
  ['\'', '"', '\\']

/-- A text that consists of codes: printable characters other than quotes and backslashes, and
backslashes followed by a letter for one character or by a hexadecimal number between braces. -/
inductive Escaped : List Char → Prop where
  | nil : Escaped []
  | plain {c cs} (hprintable : isPrintable c) (hc : c ∉ delimiters) (hcs : Escaped cs) :
      Escaped (c :: cs)
  | letter {c cs} (hc : c ∈ codeLetters) (hcs : Escaped cs) : Escaped ('\\' :: c :: cs)
  | number {ds cs} (hne : ds ≠ []) (hds : ∀ d ∈ ds, d ∈ hexDigits) (hcs : Escaped cs) :
      Escaped ('\\' :: 'u' :: '{' :: (ds ++ '}' :: cs))

/-- A number between braces holds no quotes and no backslashes. -/
theorem not_mem_delimiters {ds : List Char} (hds : ∀ d ∈ ds, d ∈ hexDigits) :
  ∀ c ∈ '{' :: ds ++ ['}'], c ∉ delimiters
  := by
  have hdigits : ∀ d ∈ hexDigits, d ∉ delimiters := by simp [hexDigits, delimiters]
  simp only [List.forall_mem_append, List.forall_mem_cons]
  exact ⟨⟨by decide, fun d hd => hdigits d (hds d hd)⟩, by decide, nofun⟩

theorem Escaped.escapeChar_append {cs : List Char} (h : Escaped cs) (c : Char) :
  Escaped (escapeChar c ++ cs)
  := by
  fun_cases escapeChar c with
  | case7 c _ _ _ _ _ _ hprintable =>
    apply plain hprintable _ h
    simp_all [delimiters]
  | case8 c =>
    rw [List.append_assoc]
    apply number Nat.toDigits_ne_nil _ h
    intro d
    apply mem_hexDigits
  | _ =>
    apply letter _ h
    decide

/-- Escaping makes a text of codes. -/
theorem escaped_escape (cs : List Char) :
  Escaped (escape cs)
  := by
  induction cs with
  | nil => apply Escaped.nil
  | cons c cs ih =>
    rw [escape, List.flatMap_cons, ← escape]
    apply ih.escapeChar_append

theorem escaped_escapeChar (c : Char) :
  Escaped (escapeChar c)
  := by
  have h := Escaped.nil.escapeChar_append c
  rwa [List.append_nil] at h

/-- Texts of codes are printable. -/
theorem Escaped.isPrintable {cs : List Char} (h : Escaped cs) :
  ∀ c ∈ cs, isPrintable c
  := by
  have hletters : ∀ c ∈ codeLetters, Text.isPrintable c := List.all_eq_true.mp rfl
  have hdigits : ∀ c ∈ hexDigits, Text.isPrintable c := List.all_eq_true.mp rfl
  induction h with
  | nil => nofun
  | plain hprintable _ _ ih =>
    rw [List.forall_mem_cons]
    exact ⟨hprintable, ih⟩
  | letter hc _ ih =>
    rw [List.forall_mem_cons, List.forall_mem_cons]
    exact ⟨rfl, hletters _ hc, ih⟩
  | number _ hds _ ih =>
    rw [List.forall_mem_cons, List.forall_mem_cons, List.forall_mem_cons, List.forall_mem_append,
      List.forall_mem_cons]
    exact ⟨rfl, rfl, rfl, fun d hd => hdigits d (hds d hd), rfl, ih⟩

/-- The characters of a text that no backslash escapes; a backslash escapes what follows it. -/
def unescaped : List Char → List Char
  | '\\' :: _ :: cs => unescaped cs
  | c :: cs => c :: unescaped cs
  | [] => []

theorem unescaped_append {ds : List Char} (hds : ∀ d ∈ ds, d ≠ '\\') (cs : List Char) :
  unescaped (ds ++ cs) = ds ++ unescaped cs
  := by
  induction ds with
  | nil => rfl
  | cons d ds ih =>
    obtain ⟨hd, hds⟩ := List.forall_mem_cons.mp hds
    rw [List.cons_append, unescaped, ih hds, List.cons_append]
    simp [hd]

/-- In a text of codes every quote and every backslash is escaped or escapes. -/
theorem Escaped.not_mem_unescaped {cs : List Char} (h : Escaped cs) :
  ∀ c ∈ unescaped cs, c ∉ delimiters
  := by
  induction h with
  | nil => nofun
  | plain _ hc _ ih =>
    rw [unescaped, List.forall_mem_cons]
    · exact ⟨hc, ih⟩
    · rintro _ _ rfl
      simp [delimiters] at hc
  | letter _ _ ih => exact ih
  | @number ds cs _ hds _ ih =>
    have hplain := not_mem_delimiters hds
    have hunescaped : unescaped ('\\' :: 'u' :: '{' :: (ds ++ '}' :: cs))
        = '{' :: ds ++ ['}'] ++ unescaped cs := by
      rw [← unescaped_append, unescaped, List.append_assoc]
      · rfl
      · rintro d hd rfl
        exact hplain _ hd (by decide)
    rw [hunescaped, List.forall_mem_append]
    exact ⟨hplain, ih⟩

/-! ### Reading escaped text -/

/-- Where a reader of escaped text stands. -/
inductive Position where
  | betweenCodes
  | afterBackslash
  /-- Between braces, after the digits of a number. -/
  | inNumber (n : Nat)

/-- The character that a letter after a backslash stands for. -/
def ofLetter : Char → Char
  | 't' => '\t'
  | 'r' => '\r'
  | 'n' => '\n'
  | c => c

/-- The characters that a text of codes stands for, read from a position on. -/
def unescape : Position → List Char → List Char
  | .betweenCodes, '\\' :: cs => unescape .afterBackslash cs
  | .betweenCodes, c :: cs => c :: unescape .betweenCodes cs
  | .afterBackslash, 'u' :: '{' :: cs => unescape (.inNumber 0) cs
  | .afterBackslash, c :: cs => ofLetter c :: unescape .betweenCodes cs
  | .inNumber n, '}' :: cs => Char.ofNat n :: unescape .betweenCodes cs
  | .inNumber n, c :: cs => unescape (.inNumber (16 * n + hexValue c)) cs
  | _, [] => []

/-- A number is read up to the closing brace. -/
theorem unescape_inNumber {ds : List Char} (hds : ∀ d ∈ ds, d ∈ hexDigits) (n : Nat)
    (cs : List Char) :
  unescape (.inNumber n) (ds ++ '}' :: cs)
    = Char.ofNat (ofHexDigits n ds) :: unescape .betweenCodes cs
  := by
  induction ds generalizing n with
  | nil => rfl
  | cons d ds ih =>
    obtain ⟨hd, hds⟩ := List.forall_mem_cons.mp hds
    rw [List.cons_append, unescape, ih hds]
    · rfl
    · rintro rfl
      revert hd
      decide

theorem unescape_escapeChar (c : Char) (cs : List Char) :
  unescape .betweenCodes (escapeChar c ++ cs) = c :: unescape .betweenCodes cs
  := by
  fun_cases escapeChar c with
  | case7 => simp [unescape]
  | case8 c =>
    simp only [List.append_assoc, List.cons_append, List.nil_append]
    rw [unescape, unescape, unescape_inNumber fun _ => mem_hexDigits, ofHexDigits_toDigits,
      Char.ofNat_toNat]
  | _ => rfl

/-- Escaped text stands for the characters that were escaped. -/
theorem unescape_escape (cs : List Char) :
  unescape .betweenCodes (escape cs) = cs
  := by
  induction cs with
  | nil => rfl
  | cons c cs ih =>
    rw [escape, List.flatMap_cons, unescape_escapeChar, ← escape, ih]

end Text

namespace Constant

/-! ### Numbers -/

/-- Whether a character is a sign or a digit. -/
def isDecimal (c : Char) : Bool :=
  c = '-' || c.isDigit

theorem isDigit_of_mem {n : Nat} {c : Char} (h : c ∈ Nat.toDigits 10 n) :
  c.isDigit
  := Nat.isDigit_of_mem_toDigits (by decide) (by decide) h

/-- A number has its digits for its text, after a minus sign if it is negative. -/
theorem toList_toString (n : Int) :
  (toString n).toList
    = if n < 0 then '-' :: Nat.toDigits 10 n.natAbs else Nat.toDigits 10 n.natAbs
  := by
  rw [Int.toString_eq_repr]
  cases n with
  | ofNat m =>
    have hnonneg : ¬ Int.ofNat m < 0 := Int.not_lt.mpr (Int.natCast_nonneg m)
    rw [if_neg hnonneg, Int.repr, Nat.toList_repr]
    rfl
  | negSucc m =>
    rw [if_pos (Int.negSucc_lt_zero m), Int.repr, String.toList_append, Nat.toList_repr]
    rfl

theorem isDecimal_of_mem {n : Int} {c : Char} (h : c ∈ (toString n).toList) :
  isDecimal c
  := by
  rw [toList_toString] at h
  rw [isDecimal, Bool.or_eq_true, decide_eq_true_eq]
  split_ifs at h
  · apply (List.mem_cons.mp h).imp_right isDigit_of_mem
  · right
    apply isDigit_of_mem h

/-- The text of a number begins with a sign or a digit. -/
theorem exists_toList_toString (n : Int) :
  ∃ c cs, (toString n).toList = c :: cs ∧ isDecimal c
  := by
  have hne : (toString n).toList ≠ [] := by
    rw [toList_toString]
    split_ifs
    · apply List.cons_ne_nil
    · apply Nat.toDigits_ne_nil
  obtain ⟨c, cs, hcs⟩ := List.exists_cons_of_ne_nil hne
  use c, cs, hcs
  apply isDecimal_of_mem (n := n)
  rw [hcs]
  apply List.mem_cons_self

/-- The number that a decimal text denotes. -/
def ofDecimal : List Char → Int
  | '-' :: ds => -Nat.ofDigitChars 10 ds 0
  | ds => Nat.ofDigitChars 10 ds 0

theorem ofDecimal_toString (n : Int) :
  ofDecimal (toString n).toList = n
  := by
  rw [toList_toString]
  split_ifs with h
  · rw [ofDecimal, Nat.ofDigitChars_ten_toDigits]
    omega
  · rw [ofDecimal, Nat.ofDigitChars_ten_toDigits]
    · omega
    · intro ds hds
      have hsign := isDigit_of_mem (hds ▸ List.mem_cons_self : '-' ∈ Nat.toDigits 10 n.natAbs)
      exact absurd hsign (by decide)

/-! ### Literals -/

/-- The number that a text denotes, a long if the text ends in `L`. -/
def ofNumber (cs : List Char) : Constant :=
  if cs.getLast? = some 'L' then long (.ofInt (ofDecimal cs.dropLast))
  else int (.ofInt (ofDecimal cs))

/-- The constant that a text denotes if it is a literal, by its first character. -/
def candidate? (s : String) : Option Constant :=
  match s.toList with
  | '\'' :: cs => (Text.unescape .betweenCodes cs.dropLast).head?.map char
  | '"' :: cs => some (str (String.ofList (Text.unescape .betweenCodes cs.dropLast)))
  | 'n' :: _ => some null
  | 't' :: _ => some (bool true)
  | 'f' :: _ => some (bool false)
  | cs => some (ofNumber cs)

/-- The constant whose literal a text is. -/
def ofLiteral? (s : String) : Option Constant :=
  (candidate? s).filter (·.literal = s)

theorem candidate?_of_isDecimal {s : String} {c : Char} {cs : List Char}
    (hs : s.toList = c :: cs) (hc : isDecimal c) :
  candidate? s = some (ofNumber (c :: cs))
  := by
  rw [candidate?, hs]
  split
  case h_6 => rfl
  all_goals
    rename_i heq
    rw [(List.cons.inj heq).1] at hc
    exact absurd hc (by decide)

theorem candidate?_literal (c : Constant) :
  candidate? c.literal = some c
  := by
  cases c with
  | int v =>
    obtain ⟨c, cs, hcs, hdecimal⟩ := exists_toList_toString v.toInt
    have hlast : (c :: cs).getLast? ≠ some 'L' := by
      intro h
      rw [← hcs] at h
      exact absurd (isDecimal_of_mem (List.mem_of_getLast? h)) (by decide)
    rw [literal, candidate?_of_isDecimal hcs hdecimal, ofNumber, if_neg hlast, ← hcs,
      ofDecimal_toString, Int32.ofInt_toInt]
  | long v =>
    obtain ⟨c, cs, hcs, hdecimal⟩ := exists_toList_toString v.toInt
    have hlist : (literal (long v)).toList = c :: (cs ++ ['L']) := by
      rw [literal, String.toList_append, hcs]
      rfl
    rw [candidate?_of_isDecimal hlist hdecimal, ← List.cons_append, ← hcs, ofNumber,
      List.getLast?_concat, if_pos rfl, List.dropLast_concat, ofDecimal_toString,
      Int64.ofInt_toInt]
  | bool b =>
    cases b with
    | _ => rfl
  | char c =>
    have hc := Text.unescape_escapeChar c []
    rw [List.append_nil] at hc
    simp [candidate?, literal, Text.quotedChar, hc]
  | str s =>
    simp [candidate?, literal, Text.quoted, Text.unescape_escape]
  | null => rfl

/-- A text is read as the constant whose literal it is, and as no constant if there is none. -/
theorem ofLiteral?_eq_some_iff {s : String} {c : Constant} :
  ofLiteral? s = some c ↔ c.literal = s
  := by
  rw [ofLiteral?, Option.filter_eq_some_iff]
  constructor
  · rintro ⟨-, h⟩
    simpa using h
  · rintro rfl
    simp [candidate?_literal]

theorem literal_injective :
  Function.Injective literal
  := by
  intro c d h
  have hd := ofLiteral?_eq_some_iff.mpr h.symm
  rw [ofLiteral?_eq_some_iff.mpr rfl] at hd
  apply Option.some.inj hd

/-! ### Quotes -/

/-- The quote that the literal of a constant begins and ends with. -/
def quote? : Constant → Option Char
  | char _ => some '\''
  | str _ => some '"'
  | int _ | long _ | bool _ | null => none

theorem quote?_cases {c : Constant} {q : Char} (hq : c.quote? = some q) :
  q = '\'' ∨ q = '"'
  := by
  cases c with
  | char =>
    left
    apply (Option.some.inj hq).symm
  | str =>
    right
    apply (Option.some.inj hq).symm
  | int | long | bool | null => cases hq

/-- Between its quotes, the literal of a character or a string is a text of codes. -/
theorem exists_payload {c : Constant} {q : Char} (hq : c.quote? = some q) :
  ∃ payload, c.literal.toList = q :: payload ++ [q] ∧ Text.Escaped payload
  := by
  cases c with
  | char x =>
    cases hq
    use Text.escapeChar x, String.toList_ofList
    apply Text.escaped_escapeChar
  | str s =>
    cases hq
    use Text.escape s.toList, String.toList_ofList
    apply Text.escaped_escape
  | int | long | bool | null => cases hq

/-- Whether a character may stand in a number or a word. -/
def isPlain (c : Char) : Bool :=
  isDecimal c || c.isAlpha

theorem isPlain_of_isDecimal {c : Char} (h : isDecimal c) :
  isPlain c
  := by
  rw [isPlain, h, Bool.true_or]

/-- A literal without quotes is a number or a word. -/
theorem isPlain_of_mem {c : Constant} (hq : c.quote? = none) :
  ∀ x ∈ c.literal.toList, isPlain x
  := by
  cases c with
  | int v =>
    intro x hx
    apply isPlain_of_isDecimal (isDecimal_of_mem hx)
  | long v =>
    rw [literal, String.toList_append, List.forall_mem_append]
    constructor
    · intro x hx
      apply isPlain_of_isDecimal (isDecimal_of_mem hx)
    · apply List.all_eq_true.mp rfl
  | bool b =>
    cases b with
    | _ => apply List.all_eq_true.mp rfl
  | null => apply List.all_eq_true.mp rfl
  | char | str => cases hq

theorem isPrintable_of_isDigit {x : Char} (hx : x.isDigit) :
  Text.isPrintable x
  := by
  rw [Char.isDigit, Bool.and_eq_true, decide_eq_true_eq, decide_eq_true_eq] at hx
  apply Text.isPrintable_of_between hx.1 hx.2 (by decide) (by decide)

theorem isPrintable_of_isAlpha {x : Char} (hx : x.isAlpha) :
  Text.isPrintable x
  := by
  rcases (Bool.or_eq_true _ _).mp hx with hupper | hlower
  · obtain ⟨hlo, hhi⟩ := of_decide_eq_true hupper
    apply Text.isPrintable_of_between hlo hhi (by decide) (by decide)
  · obtain ⟨hlo, hhi⟩ := (Bool.and_eq_true _ _).mp hlower
    apply Text.isPrintable_of_between (of_decide_eq_true hlo) (of_decide_eq_true hhi)
    · decide
    · decide

theorem isPrintable_of_isPlain {x : Char} (hx : isPlain x) :
  Text.isPrintable x
  := by
  rw [isPlain, isDecimal, Bool.or_eq_true, Bool.or_eq_true, decide_eq_true_eq] at hx
  rcases hx with (rfl | hx) | hx
  · rfl
  · apply isPrintable_of_isDigit hx
  · apply isPrintable_of_isAlpha hx

/-- Literals are printable. -/
theorem isPrintable_literal (c : Constant) :
  ∀ x ∈ c.literal.toList, Text.isPrintable x
  := by
  cases hq : c.quote? with
  | none =>
    intro x hx
    apply isPrintable_of_isPlain (isPlain_of_mem hq x hx)
  | some q =>
    obtain ⟨payload, hpayload, hescaped⟩ := exists_payload hq
    have hquote : Text.isPrintable q := by
      rcases quote?_cases hq with rfl | rfl
      · rfl
      · rfl
    rw [hpayload, List.cons_append, List.forall_mem_cons, List.forall_mem_append,
      List.forall_mem_singleton]
    exact ⟨hquote, hescaped.isPrintable, hquote⟩

/-- A text is read as the constant whose literal it is, so each constant is read back from its
literal, and different constants have different literals.  Literals are printable.  Between its
quotes, the literal of a character or a string consists of codes, and contains no quote and no
backslash that is not escaped. -/
theorem literal_decodes :
  (∀ s c, ofLiteral? s = some c ↔ c.literal = s)
    ∧ (∀ c d : Constant, c.literal = d.literal → c = d)
    ∧ (∀ c : Constant, ∀ x ∈ c.literal.toList, Text.isPrintable x)
    ∧ ∀ (c : Constant) (q : Char), c.quote? = some q →
      ∃ payload, c.literal.toList = q :: payload ++ [q] ∧ Text.Escaped payload
        ∧ ∀ x ∈ Text.unescaped payload, x ∉ Text.delimiters
  := by
  and_intros
  · intro s c
    apply ofLiteral?_eq_some_iff
  · intro c d h
    apply literal_injective h
  · apply isPrintable_literal
  · intro c q hq
    obtain ⟨payload, hpayload, hescaped⟩ := exists_payload hq
    use payload, hpayload, hescaped, hescaped.not_mem_unescaped

/-- A string that looks like a code, with a quote, a tab and a character beyond the basic plane. -/
def disguised : Constant :=
  .str "\\u\x7b41\x7d'\t😀"

/-- The string is read back, and is not taken for the letter that the code would stand for. -/
theorem literal_decodes_disguised :
  disguised.quote? = some '"'
    ∧ disguised.literal = "\"\\\\u\x7b41\x7d\\'\\t\\u\x7b1f600\x7d\""
    ∧ ofLiteral? disguised.literal = some disguised
    ∧ (str "A'\t😀").literal ≠ disguised.literal
    ∧ (∀ x ∈ disguised.literal.toList, Text.isPrintable x)
    ∧ ∃ payload, disguised.literal.toList = '"' :: payload ++ ['"']
      ∧ ∀ x ∈ Text.unescaped payload, x ∉ Text.delimiters
  := by
  obtain ⟨hread, hinjective, hprintable, hquoted⟩ := literal_decodes
  obtain ⟨payload, hpayload, -, hunescaped⟩ := hquoted disguised '"' rfl
  have htext : disguised.literal = "\"\\\\u\x7b41\x7d\\'\\t\\u\x7b1f600\x7d\"" := by
    decide +kernel
  use rfl, htext, (hread _ _).mpr rfl
  constructor
  · intro h
    exact absurd (hinjective _ _ h) (by decide)
  · use hprintable disguised, payload

end Constant

end VirtualFields
