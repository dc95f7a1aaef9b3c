import VirtualFields.Settings.Token

/-!
# Settings documents

A settings document gives values to keys, each key at most once.  `Document.parse?` reads the
TOML documents each of whose entries gives a key a truth value or a list of strings.  These
are the only kinds of values that settings take, and texts with other values are not read.
-/

namespace VirtualFields.Settings

/-- The value of a setting. -/
inductive Setting where
  | flag (b : Bool)
  | text (s : String)
  | list (ss : List Setting)
  /-- A number, a date or a table. -/
  | other

/-- The list of strings as a value. -/
def Setting.names (ss : List String) : Setting :=
  .list (ss.map .text)

/-- The truth value that a value is. -/
def Setting.asFlag? : Setting → Option Bool
  | .flag b => some b
  | _ => none

/-- The string that a value is. -/
def Setting.asText? : Setting → Option String
  | .text s => some s
  | _ => none

/-- The list of strings that a value is. -/
def Setting.asNames? : Setting → Option (List String)
  | .list ss => ss.mapM asText?
  | _ => none

/-- The entries of a document in the order in which they stand. -/
abbrev Entries := List (String × Setting)

/-- A settings document. -/
structure Document where
  entries : Entries
  /-- A key is given once. -/
  nodup : (entries.map (·.1)).Nodup

/-- A reader of settings documents: the document that a text holds. -/
abbrev Reader := String → Option Document

/-- The key that a token is: a word or a string of one line. -/
def key? : Token → Option String
  | .word s => some s
  | .quoted q => if q.multiline then none else some q.text
  | .equals | .comma | .leftBracket | .rightBracket | .lineEnd => none

/-- The truth value that a word is. -/
def flag? (s : String) : Option Bool :=
  if s = "true" then some true
  else if s = "false" then some false
  else none

mutual

/-- The entries of the tokens where an entry may begin. -/
def entries? : List Token → Option Entries
  | [] => some []
  | .lineEnd :: ts => entries? ts
  | k :: .equals :: .word s :: ts => do
    return (← key? k, .flag (← flag? s)) :: (← ended? ts)
  | k :: .equals :: .leftBracket :: ts => do
    let key ← key? k
    let (ss, rest) ← names? ts
    return (key, .names ss) :: rest
  | _ => none

/-- The entries of the tokens after a value.  Only the end of a line may follow one. -/
def ended? : List Token → Option Entries
  | [] => some []
  | .lineEnd :: ts => entries? ts
  | _ => none

/-- The strings of a list from the place of a string on, and the entries after the list. -/
def names? : List Token → Option (List String × Entries)
  | .lineEnd :: ts => names? ts
  | .rightBracket :: ts => (ended? ts).map ([], ·)
  | .quoted q :: ts => (moreNames? ts).map fun (ss, rest) => (q.text :: ss, rest)
  | _ => none

/-- The strings of a list from the place of a comma on, and the entries after the list. -/
def moreNames? : List Token → Option (List String × Entries)
  | .lineEnd :: ts => moreNames? ts
  | .rightBracket :: ts => (ended? ts).map ([], ·)
  | .comma :: ts => names? ts
  | _ => none

end

/-- The text without a byte order mark at its beginning. -/
def dropMark : List Char → List Char
  | '\ufeff' :: s => s
  | s => s

/-- The settings document that a text holds. -/
def Document.parse? (text : String) : Option Document := do
  let ts ← tokens? (dropMark text.toList)
  let es ← entries? ts
  if h : (es.map (·.1)).Nodup then some ⟨es, h⟩ else none

end VirtualFields.Settings
