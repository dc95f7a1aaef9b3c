/-!
# Quoted text in settings

The four forms of strings in TOML.  A string stands between double quotes, where a
backslash begins an escape sequence, or between single quotes, where it does not; between
three quotes it may extend over several lines.  `readQuoted` finds the end of a string
first and decodes what it holds then.
-/

namespace VirtualFields.Settings

/-- Whether a character may stand in a comment or in a line of a string: a tab, or a
character that is no control character of ASCII. -/
def isTextChar (c : Char) : Bool :=
  c = '\t' || (0x20 ≤ c.toNat && c.toNat ≠ 0x7f)

/-- Whether a character is a space or a tab. -/
def isBlank (c : Char) : Bool :=
  c = ' ' || c = '\t'

/-- Whether a character is blank or part of a line end. -/
def isSpace (c : Char) : Bool :=
  isBlank c || c = '\n' || c = '\r'

/-- The text after a line end. -/
def afterLineEnd? : List Char → Option (List Char)
  | '\n' :: r => some r
  | '\r' :: '\n' :: r => some r
  | _ => none

/-! ### Escape sequences -/

/-- The value of a hexadecimal digit. -/
def hexDigit? (c : Char) : Option Nat :=
  if c.isDigit then some (c.toNat - '0'.toNat)
  else if 'a' ≤ c ∧ c ≤ 'f' then some (c.toNat - 'a'.toNat + 10)
  else if 'A' ≤ c ∧ c ≤ 'F' then some (c.toNat - 'A'.toNat + 10)
  else none

/-- The character whose code is written in hexadecimal. -/
def codePoint? (digits : List Char) : Option Char := do
  let ds ← digits.mapM hexDigit?
  let n := ds.foldl (fun n d => 16 * n + d) 0
  if n.isValidChar then some (Char.ofNat n) else none

/-- The character that a backslash and another character stand for. -/
def escaped? : Char → Option Char
  | 'b' => some '\x08'
  | 't' => some '\t'
  | 'n' => some '\n'
  | 'f' => some '\x0c'
  | 'r' => some '\r'
  | 'e' => some '\x1b'
  | '"' => some '"'
  | '\\' => some '\\'
  | _ => none

/-- The text after a backslash that ends a line: the line end and all space after it are
left out. -/
def afterContinuation? (s : List Char) : Option (List Char) :=
  (afterLineEnd? (s.dropWhile isBlank)).map (·.dropWhile isSpace)

theorem length_of_afterLineEnd? {s r : List Char} (h : afterLineEnd? s = some r) :
  r.length < s.length
  := by
  unfold afterLineEnd? at h
  split at h
  next =>
    cases h
    apply Nat.lt_add_one
  next =>
    cases h
    apply Nat.lt_add_of_pos_right Nat.zero_lt_two
  next => contradiction

theorem length_of_afterContinuation? {s r : List Char} (h : afterContinuation? s = some r) :
  r.length < s.length
  := by
  obtain ⟨t, ht, rfl⟩ := Option.map_eq_some_iff.mp h
  have h₁ := length_of_afterLineEnd? ht
  have h₂ := (s.dropWhile_sublist isBlank).length_le
  have h₃ := (t.dropWhile_sublist isSpace).length_le
  omega

/-- The text that the inside of a string with escape sequences stands for. -/
def unescape (multiline : Bool) : List Char → Option (List Char)
  | [] => some []
  | '\\' :: 'x' :: a :: b :: r => do
    return (← codePoint? [a, b]) :: (← unescape multiline r)
  | '\\' :: 'u' :: a :: b :: c :: d :: r => do
    return (← codePoint? [a, b, c, d]) :: (← unescape multiline r)
  | '\\' :: 'U' :: a :: b :: c :: d :: e :: f :: g :: h :: r => do
    return (← codePoint? [a, b, c, d, e, f, g, h]) :: (← unescape multiline r)
  | '\\' :: r =>
    match hr : afterContinuation? r with
    | some r' =>
      have := length_of_afterContinuation? hr
      if multiline then unescape multiline r' else none
    | none =>
      match r with
      | [] => none
      | c :: r => do return (← escaped? c) :: (← unescape multiline r)
  | c :: r => do return c :: (← unescape multiline r)
  termination_by s => s.length
  decreasing_by all_goals simp only [List.length_cons]; omega

/-! ### The ends of strings -/

/-- Whether a character leaves the next one without its meaning: a backslash does in a
string with escape sequences, unless it follows such a backslash itself. -/
def escapesNext (quote : Char) (escaped : Bool) (c : Char) : Bool :=
  quote = '"' && c = '\\' && !escaped

/-- The inside of a one-line string after its opening quote, and the text after it.  The
first character has lost its meaning if `escaped`. -/
def splitLine (quote : Char) (escaped : Bool) : List Char → Option (List Char × List Char)
  | [] => none
  | c :: r =>
    if c = quote && !escaped then some ([], r)
    else if isTextChar c then
      (splitLine quote (escapesNext quote escaped c) r).map fun (s, rest) => (c :: s, rest)
    else none

/-- The text after three quotes at the end of a string.  One or two more quotes belong to
the inside of the string. -/
def closing? (quote : Char) (s : List Char) : Option (List Char × List Char) :=
  let n := (s.takeWhile (· = quote)).length
  if n < 3 then none
  else some (List.replicate (min n 5 - 3) quote, s.drop (min n 5))

/-- The inside of a string of several lines after its opening quotes, and the text after
it.  The first character has lost its meaning if `escaped`. -/
def splitLines (quote : Char) (escaped : Bool) : List Char → Option (List Char × List Char)
  | [] => none
  | c :: r =>
    match if escaped then none else closing? quote (c :: r) with
    | some result => some result
    | none =>
      if isTextChar c || (afterLineEnd? (c :: r)).isSome then
        (splitLines quote (escapesNext quote escaped c) r).map fun (s, rest) => (c :: s, rest)
      else none

theorem length_of_splitLine {quote : Char} {escaped : Bool} {s t r : List Char}
    (h : splitLine quote escaped s = some (t, r)) :
  r.length < s.length
  := by
  induction s generalizing escaped t with
  | nil => simp [splitLine] at h
  | cons c s ih =>
    unfold splitLine at h
    split at h
    · obtain ⟨-, rfl⟩ : [] = t ∧ s = r := by simpa using h
      simp
    · split at h
      · obtain ⟨⟨t', r'⟩, hs, h'⟩ := Option.map_eq_some_iff.mp h
        obtain ⟨-, rfl⟩ := Prod.mk.inj h'
        exact Nat.lt_succ_of_lt (ih hs)
      · simp at h

theorem length_of_closing? {quote : Char} {s t r : List Char}
    (h : closing? quote s = some (t, r)) :
  r.length < s.length
  := by
  have hle := (List.takeWhile_sublist (l := s) (· = quote)).length_le
  simp only [closing?] at h
  split at h
  · simp at h
  · simp only [Option.some.injEq, Prod.mk.injEq] at h
    rw [← h.2, List.length_drop]
    omega

theorem length_of_splitLines {quote : Char} {escaped : Bool} {s t r : List Char}
    (h : splitLines quote escaped s = some (t, r)) :
  r.length < s.length
  := by
  induction s generalizing escaped t with
  | nil => simp [splitLines] at h
  | cons c s ih =>
    unfold splitLines at h
    split at h
    next result hc =>
      obtain rfl : result = (t, r) := by simpa using h
      split at hc
      · simp at hc
      · exact length_of_closing? hc
    next =>
      split at h
      · obtain ⟨⟨t', r'⟩, hs, h'⟩ := Option.map_eq_some_iff.mp h
        obtain ⟨-, rfl⟩ := Prod.mk.inj h'
        exact Nat.lt_succ_of_lt (ih hs)
      · simp at h

/-- A quoted string, with whether it may extend over several lines. -/
structure Quoted where
  text : String
  multiline : Bool
  deriving DecidableEq

/-- The inside of a string without the line end at its beginning. -/
def dropFirstLineEnd (s : List Char) : List Char :=
  (afterLineEnd? s).getD s

/-- The string for the inside of a pair of quotes. -/
def decode (quote : Char) (multiline : Bool) (inside : List Char) : Option Quoted :=
  (if quote = '"' then unescape multiline inside else some inside).map fun cs =>
    ⟨String.ofList cs, multiline⟩

/-- The string that begins after a first quote, and the text after it. -/
def readQuoted (quote : Char) (s : List Char) : Option (Quoted × List Char) :=
  match s with
  | c :: d :: r =>
    if c = quote ∧ d = quote then do
      let (inside, rest) ← splitLines quote false r
      return (← decode quote true (dropFirstLineEnd inside), rest)
    else do
      let (inside, rest) ← splitLine quote false s
      return (← decode quote false inside, rest)
  | _ => do
    let (inside, rest) ← splitLine quote false s
    return (← decode quote false inside, rest)

theorem length_of_readQuoted {quote : Char} {s : List Char} {q : Quoted} {r : List Char}
    (h : readQuoted quote s = some (q, r)) :
  r.length < s.length
  := by
  have hline : ∀ {t : List Char},
      ((splitLine quote false t).bind fun p => (decode quote false p.1).bind fun q => some (q, p.2))
        = some (q, r) → r.length < t.length := by
    intro t ht
    simp only [Option.bind_eq_some_iff, Option.some.injEq, Prod.mk.injEq] at ht
    obtain ⟨⟨inside, rest⟩, hs, -, -, -, rfl⟩ := ht
    exact length_of_splitLine hs
  unfold readQuoted at h
  split at h
  · split at h
    · simp only [bind, pure, Option.bind_eq_some_iff, Option.some.injEq, Prod.mk.injEq] at h
      obtain ⟨⟨inside, rest⟩, hs, -, -, -, rfl⟩ := h
      have := length_of_splitLines hs
      simp only [List.length_cons]
      omega
    · exact hline h
  · exact hline h

end VirtualFields.Settings
