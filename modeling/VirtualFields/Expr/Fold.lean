import VirtualFields.Expr.Basic

/-!
# Constant folding

`Expr.fold` computes the constant an expression stands for.  Reads of static final fields
are followed into their initializers as long as the depth of nested reads allows; both
operands of a binary operator must be constant, those of the logical operators included.
-/

namespace VirtualFields

/-- The depth of nested field reads that folding follows if nothing else is asked for. -/
def defaultDepth : Nat := 16

/-- The constant an expression folds to when up to `depth` nested field reads are
followed. -/
def Expr.fold (depth : Nat) : Expr → Option Constant
  | .literal c => some c
  | .unary op e => (e.fold depth).bind op.eval?
  | .binary op d e => (d.fold depth).bind fun a => (e.fold depth).bind fun b => op.eval? a b
  | .read ⟨decl, _, _, some e⟩ =>
    match depth with
    | 0 => none
    | depth + 1 => if decl.modifiers.isStaticFinal then e.fold depth else none
  | .read ⟨_, _, _, none⟩ => none
  | .arrayLiteral _ | .newArray .. | .newArrayOf .. | .opaqueText _ => none

end VirtualFields
