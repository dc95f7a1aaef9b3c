import VirtualFields.Text.Alphabetic

/-!
# Qualified names

A qualified name is a list of identifiers separated by dots.  An identifier begins with
an alphabetic character, an underscore or a dollar sign, and goes on with alphabetic and
numeric characters, underscores and dollar signs.
-/

namespace VirtualFields.Text

/-- Whether a character may begin an identifier. -/
def isNameStart (c : Char) : Bool :=
  isAlphabetic c || c = '_' || c = '$'

/-- Whether a character may stand in an identifier after the first. -/
def isNamePart (c : Char) : Bool :=
  isAlphanumeric c || c = '_' || c = '$'

/-- Whether a list of characters is an identifier. -/
def isIdentifier : List Char → Bool
  | [] => false
  | c :: cs => isNameStart c && cs.all isNamePart

/-- The pieces of a list of characters between its dots; there is one more than there are
dots. -/
def segments : List Char → List (List Char)
  | [] => [[]]
  | '.' :: cs => [] :: segments cs
  | c :: cs => (segments cs).modifyHead (c :: ·)

/-- Whether a string is a qualified name. -/
def isQualifiedName (s : String) : Bool :=
  (segments s.toList).all isIdentifier

end VirtualFields.Text
