import VirtualFields.Settings.Quoted

/-!
# Tokens of settings documents

The tokens that entries of settings consist of.  Blanks and comments separate tokens and
are left out; line ends are kept, since they end entries.
-/

namespace VirtualFields.Settings

/-- A token. -/
inductive Token where
  | equals
  | comma
  | leftBracket
  | rightBracket
  | lineEnd
  /-- A run of letters, digits, underscores and hyphens. -/
  | word (s : String)
  | quoted (q : Quoted)
  deriving DecidableEq

/-- Whether a character may stand in a word. -/
def isWordChar (c : Char) : Bool :=
  c.isAlphanum || c = '_' || c = '-'

/-- The token that a character is. -/
def Token.ofChar? : Char → Option Token
  | '=' => some .equals
  | ',' => some .comma
  | '[' => some .leftBracket
  | ']' => some .rightBracket
  | _ => none

/-- The tokens of a text.  A comment goes on to the first character that may not stand in
one. -/
def tokens? (s : List Char) : Option (List Token) :=
  match s with
  | [] => some []
  | c :: r =>
    if isBlank c then tokens? r
    else if c = '#' then
      have := (r.dropWhile_sublist isTextChar).length_le
      tokens? (r.dropWhile isTextChar)
    else if c = '"' || c = '\'' then
      match h : readQuoted c r with
      | some (q, rest) =>
        have := length_of_readQuoted h
        (tokens? rest).map (.quoted q :: ·)
      | none => none
    else if isWordChar c then
      have := (r.dropWhile_sublist isWordChar).length_le
      (tokens? (r.dropWhile isWordChar)).map
        (.word (String.ofList (c :: r.takeWhile isWordChar)) :: ·)
    else
      match h : afterLineEnd? (c :: r) with
      | some rest =>
        have := length_of_afterLineEnd? h
        (tokens? rest).map (.lineEnd :: ·)
      | none => (Token.ofChar? c).bind fun t => (tokens? r).map (t :: ·)
  termination_by s.length
  decreasing_by all_goals simp_all only [List.length_cons]; try omega

end VirtualFields.Settings
