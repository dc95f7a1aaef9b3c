import VirtualFields.Expr.Operator
import VirtualFields.Member.Declaration

/-!
# Initializer expressions

The expressions that matter to the values of virtual fields: literals, array creations,
operators and reads of fields.  Any other expression is opaque.  Expressions are compared
by structure.
-/

namespace VirtualFields

/-- An initializer expression. -/
inductive Expr where
  | literal (c : Constant)
  /-- A list of elements in braces. -/
  | arrayLiteral (elements : List Expr)
  /-- The creation of an array from the lengths of its dimensions. -/
  | newArray (element : Ty) (dimensions : List Expr)
  /-- The creation of an array from its elements in braces. -/
  | newArrayOf (element : Ty) (dimensions : List Expr) (elements : List Expr)
  | unary (op : UnaryOp) (operand : Expr)
  | binary (op : BinaryOp) (left right : Expr)
  /-- The read of a field. -/
  | read (field : Field Expr)
  /-- An expression of any other form, by its text. -/
  | opaqueText (text : String)

namespace Expr

/-! ### Equality -/

mutual

/-- Whether two expressions have the same structure. -/
def same : Expr → Expr → Bool
  | .literal b, .literal c => b = c
  | .arrayLiteral ds, .arrayLiteral es => sameList ds es
  | .newArray s cs, .newArray t ds => s = t && sameList cs ds
  | .newArrayOf s cs es, .newArrayOf t ds fs => s = t && sameList cs ds && sameList es fs
  | .unary o d, .unary p e => o = p && same d e
  | .binary o d e, .binary p d' e' => o = p && same d d' && same e e'
  | .read ⟨d, s, as, i⟩, .read ⟨e, t, bs, j⟩ => d = e && s = t && as = bs && sameOption i j
  | .opaqueText s, .opaqueText t => s = t
  | _, _ => false

/-- Whether two lists have expressions of the same structure. -/
def sameList : List Expr → List Expr → Bool
  | [], [] => true
  | d :: ds, e :: es => same d e && sameList ds es
  | _, _ => false

/-- Whether two optional expressions have the same structure. -/
def sameOption : Option Expr → Option Expr → Bool
  | none, none => true
  | some d, some e => same d e
  | _, _ => false

end

mutual

theorem same_iff : (d e : Expr) →
  (same d e ↔ d = e)
  | .literal _, e => by cases e <;> simp [same]
  | .arrayLiteral ds, e => by cases e <;> simp [same, sameList_iff ds]
  | .newArray _ cs, e => by cases e <;> simp [same, sameList_iff cs]
  | .newArrayOf _ cs es, e => by
    cases e <;> simp [same, sameList_iff cs, sameList_iff es, and_assoc]
  | .unary _ d, e => by cases e <;> simp [same, same_iff d]
  | .binary _ c d, e => by cases e <;> simp [same, same_iff c, same_iff d, and_assoc]
  | .read ⟨_, _, _, i⟩, e => by
    rcases e with _ | _ | _ | _ | _ | _ | ⟨_, _, _, _⟩ | _ <;>
      simp [same, sameOption_iff i, and_assoc]
  | .opaqueText _, e => by cases e <;> simp [same]

theorem sameList_iff : (ds es : List Expr) →
  (sameList ds es ↔ ds = es)
  | [], es => by cases es <;> simp [sameList]
  | d :: ds, es => by cases es <;> simp [sameList, same_iff d, sameList_iff ds]

theorem sameOption_iff : (i j : Option Expr) →
  (sameOption i j ↔ i = j)
  | none, j => by cases j <;> simp [sameOption]
  | some d, j => by cases j <;> simp [sameOption, same_iff d]

end

instance : DecidableEq Expr :=
  fun d e => decidable_of_iff _ (same_iff d e)

end Expr

end VirtualFields
