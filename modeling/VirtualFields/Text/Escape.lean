/-!
# Escaped text

Characters and strings as they stand between quotes in rendered constants.  The escaped
form is printable ASCII: a tab, a carriage return, a newline, either quote and the
backslash become a backslash followed by one character, the other printable ASCII
characters stand for themselves, and every other character becomes its code in lower-case
hexadecimal between `\u{` and `}`.
-/

namespace VirtualFields.Text

/-- The printable ASCII characters, from the space to the tilde. -/
def isPrintable (c : Char) : Bool :=
  0x20 ≤ c.toNat && c.toNat ≤ 0x7e

/-- The escaped form of a character. -/
def escapeChar (c : Char) : List Char :=
  match c with
  | '\t' => ['\\', 't']
  | '\r' => ['\\', 'r']
  | '\n' => ['\\', 'n']
  | '\'' => ['\\', '\'']
  | '"' => ['\\', '"']
  | '\\' => ['\\', '\\']
  | c =>
    if isPrintable c then [c]
    else ['\\', 'u', '{'] ++ Nat.toDigits 16 c.toNat ++ ['}']

/-- The escaped form of a list of characters. -/
def escape (cs : List Char) : List Char :=
  cs.flatMap escapeChar

/-- A character between single quotes. -/
def quotedChar (c : Char) : String :=
  String.ofList ('\'' :: escapeChar c ++ ['\''])

/-- A string between double quotes. -/
def quoted (s : String) : String :=
  String.ofList ('"' :: escape s.toList ++ ['"'])

end VirtualFields.Text
