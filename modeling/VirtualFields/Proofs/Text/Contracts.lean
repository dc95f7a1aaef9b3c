import Mathlib.Data.List.Basic
import VirtualFields.Contract
import VirtualFields.Proofs.Text.Pieces

/-!
# Texts of contracts

A virtual field is written by its name, which it shares with another one; all else can be read off
the text of a contract.  Cut at the spaces outside quotes, the text falls into constraints or the
two sides of a condition, the relation between them, the arrow and the outcome, and a side of a
condition, cut at the dots outside quotes, falls into its innermost term and the names of fields
(`Contract.pieces_text`, `Contract.Term.pieces_field`).  So two contracts have the same text
exactly if they differ in no more than virtual fields of the same name
(`Contract.text_eq_iff_named_eq`).
-/

namespace VirtualFields

theorem Relation.symbol_injective :
  Function.Injective fun r : Relation => r.symbol.toList
  := by
  intro r r'
  cases r <;> cases r' <;> decide

namespace Constant

/-- No literal begins as arguments do. -/
theorem literal_ne_cons (c : Constant) (cs : List Char) :
  c.literal.toList ≠ 'a' :: cs
  := by
  intro h
  cases c with
  | int v =>
    obtain ⟨d, ds, hds, hdecimal⟩ := exists_toList_toString v.toInt
    rw [literal, hds] at h
    rw [(List.cons.inj h).1] at hdecimal
    exact absurd hdecimal (by decide)
  | long v =>
    obtain ⟨d, ds, hds, hdecimal⟩ := exists_toList_toString v.toInt
    rw [literal, String.toList_append, hds] at h
    rw [(List.cons.inj h).1] at hdecimal
    exact absurd hdecimal (by decide)
  | bool b =>
    cases b with
    | _ => exact absurd (List.cons.inj h).1 (by decide)
  | char | str =>
    rw [literal] at h
    exact absurd (List.cons.inj ((String.toList_ofList).symm.trans h)).1 (by decide)
  | null => exact absurd (List.cons.inj h).1 (by decide)

/-- No literal is the word for the receiver. -/
theorem literal_ne_this (c : Constant) :
  c.literal ≠ "this"
  := by
  intro h
  have hnone : ofLiteral? "this" = none := by decide +kernel
  rw [ofLiteral?_eq_some_iff.mpr h] at hnone
  cases hnone

end Constant

namespace Contract

theorem Outcome.text_injective :
  Function.Injective fun o : Outcome => o.text.toList
  := by
  intro o o'
  cases o <;> cases o' <;> decide

theorem Constraint.text_injective :
  Function.Injective fun c : Constraint => c.text.toList
  := by
  intro c c'
  cases c <;> cases c' <;> decide

/-! ### Terms -/

/-- A term whose fields are given by their names. -/
inductive NamedTerm where
  | receiver
  | argument (index : UInt32)
  | constant (c : Constant)
  | field (base : NamedTerm) (name : String)
  deriving DecidableEq

namespace Term

/-- The term with every virtual field replaced by its name. -/
def named : Term → NamedTerm
  | receiver => .receiver
  | argument index => .argument index
  | constant c => .constant c
  | field base f => .field base.named f.name

/-- A term that is no field of another term. -/
def IsInnermost : Term → Prop
  | field _ _ => False
  | receiver | argument _ | constant _ => True

theorem toList_text_argument (index : UInt32) :
  (argument index).text.toList = 'a' :: 'r' :: 'g' :: Nat.toDigits 10 index.toNat
  := by
  rw [text, String.toList_append, Nat.toString_eq_ofList_toDigits, String.toList_ofList,
    String.toList_ofList]
  rfl

theorem argument_of_text_eq {i j : UInt32} (h : (argument i).text = (argument j).text) :
  i = j
  := by
  replace h := congrArg String.toList h
  rw [toList_text_argument, toList_text_argument] at h
  simp only [List.cons.injEq, true_and] at h
  rw [← UInt32.toNat_inj, ← Nat.ofDigitChars_ten_toDigits (n := i.toNat), h,
    Nat.ofDigitChars_ten_toDigits]

theorem text_argument_ne {index : UInt32} {s : String} (hs : ∀ cs, s.toList ≠ 'a' :: cs) :
  (argument index).text ≠ s
  := by
  rintro rfl
  exact hs _ (toList_text_argument index)

theorem isInnermost_or_field (t : Term) :
  t.IsInnermost ∨ ∃ base f, t = field base f
  := by
  cases t with
  | field base f =>
    right
    use base, f
  | receiver | argument | constant =>
    left
    trivial

/-- Innermost terms have different texts. -/
theorem eq_of_text_eq {s t : Term} (hs : s.IsInnermost) (ht : t.IsInnermost)
    (h : s.text = t.text) :
  s = t
  := by
  cases s with
  | receiver =>
    cases t with
    | receiver => rfl
    | argument => exact absurd h.symm (text_argument_ne (by simp [text]))
    | constant c => exact absurd h.symm c.literal_ne_this
    | field => cases ht
  | argument i =>
    cases t with
    | receiver => exact absurd h (text_argument_ne (by simp [text]))
    | argument j => rw [argument_of_text_eq h]
    | constant c => exact absurd h (text_argument_ne c.literal_ne_cons)
    | field => cases ht
  | constant c =>
    cases t with
    | receiver => exact absurd h c.literal_ne_this
    | argument => exact absurd h.symm (text_argument_ne c.literal_ne_cons)
    | constant d => rw [Constant.literal_injective h]
    | field => cases ht
  | field => cases hs

/-- The text of an innermost term is unbroken. -/
theorem IsInnermost.unbroken {t : Term} (ht : t.IsInnermost) {sep : Char}
    (hsep : Constant.IsSeparator sep) :
  Text.Unbroken sep .outside t.text.toList .outside
  := by
  cases t with
  | receiver =>
    apply Constant.unbroken_plain hsep
    apply List.all_eq_true.mp rfl
  | argument index =>
    rw [text, String.toList_append]
    apply Constant.unbroken_plain hsep
    rw [List.forall_mem_append]
    constructor
    · apply List.all_eq_true.mp rfl
    · intro c hc
      apply Constant.isPlain_of_isDecimal
      apply Constant.isDecimal_of_mem (n := index.toNat) hc
  | constant c => apply Constant.unbroken_literal hsep
  | field => cases ht

/-- The name of a field is unbroken. -/
theorem unbroken_name {sep : Char} (hsep : Constant.IsSeparator sep) (f : VirtualField) :
  Text.Unbroken sep .outside f.name.toList .outside
  := by
  apply Constant.unbroken_plain hsep
  cases f with
  | _ => apply List.all_eq_true.mp rfl

/-- The text of a term has no spaces outside quotes. -/
theorem unbroken_text (t : Term) :
  Text.Unbroken ' ' .outside t.text.toList .outside
  := by
  induction t with
  | field base f ih =>
    have hdot : Text.Unbroken ' ' .outside ['.'] .outside := Text.unbroken_outside rfl
    rw [text, String.toList_append, String.toList_append]
    apply (ih.append hdot).append
    apply unbroken_name (by decide)
  | receiver | argument | constant =>
    apply IsInnermost.unbroken _ (by decide)
    trivial

/-- The pieces of the text of a term between the dots outside quotes. -/
def pieces (t : Term) : List (List Char) :=
  Text.pieces '.' .outside t.text.toList

theorem pieces_field (base : Term) (f : VirtualField) :
  (field base f).pieces = base.pieces ++ [f.name.toList]
  := by
  have hname : Text.Unbroken '.' .outside f.name.toList .outside := unbroken_name (by decide) f
  rw [pieces, text, String.toList_append, String.toList_append, List.append_assoc,
    ← hname.pieces_eq]
  apply Text.pieces_append (by decide) base.unbroken_text

theorem pieces_of_isInnermost {t : Term} (ht : t.IsInnermost) :
  t.pieces = [t.text.toList]
  := by
  apply Text.Unbroken.pieces_eq
  apply ht.unbroken (by decide)

/-- The text of an innermost term is the text of no other term, since the pieces of a field are
more than one. -/
theorem IsInnermost.eq_of_text_eq {s t : Term} (hs : s.IsInnermost) (h : s.text = t.text) :
  s = t
  := by
  rcases t.isInnermost_or_field with ht | ⟨base, f, rfl⟩
  · apply Term.eq_of_text_eq hs ht h
  · have hpieces : [] ++ [s.text.toList] = base.pieces ++ [f.name.toList] := by
      rw [List.nil_append, ← pieces_of_isInnermost hs, ← pieces_field, pieces, pieces, h]
    have hbase := (List.append_inj' hpieces rfl).1
    exact absurd hbase.symm (Text.pieces_ne_nil _ _ _)

theorem IsInnermost.eq_of_named_eq {s t : Term} (hs : s.IsInnermost) (h : s.named = t.named) :
  s = t
  := by
  cases s with
  | field => cases hs
  | receiver | argument | constant =>
    cases t with
    | _ => simp_all [named]

/-- Fields of the same text have the same name, and their bases have the same text. -/
theorem text_field_eq_iff {base base' : Term} {f g : VirtualField} :
  (field base f).text = (field base' g).text ↔ base.text = base'.text ∧ f.name = g.name
  := by
  constructor
  · intro h
    have hpieces : (field base f).pieces = (field base' g).pieces := by
      rw [pieces, pieces, h]
    rw [pieces_field, pieces_field] at hpieces
    have hname : f.name = g.name :=
      String.toList_injective (List.singleton_inj.mp (List.append_inj' hpieces rfl).2)
    rw [text, text, hname, String.append_left_inj, String.append_left_inj] at h
    exact ⟨h, hname⟩
  · rintro ⟨hbase, hname⟩
    rw [text, text, hbase, hname]

/-- Terms have the same text exactly if they are the same up to the names of fields. -/
theorem text_eq_iff {s t : Term} :
  s.text = t.text ↔ s.named = t.named
  := by
  induction s generalizing t with
  | field base f ih =>
    cases t with
    | field base' g => rw [text_field_eq_iff, named, named, NamedTerm.field.injEq, ih]
    | receiver | argument | constant =>
      constructor
      · intro h
        cases IsInnermost.eq_of_text_eq (by trivial) h.symm
      · nofun
  | receiver | argument | constant =>
    constructor
    · intro h
      rw [IsInnermost.eq_of_text_eq (by trivial) h]
    · intro h
      rw [IsInnermost.eq_of_named_eq (by trivial) h]

end Term

/-! ### Contracts -/

/-- A contract whose fields are given by their names. -/
inductive NamedContract where
  | onArguments (constraints : List Constraint) (outcome : Outcome)
  | onCondition (left : NamedTerm) (relation : Relation) (right : NamedTerm) (outcome : Outcome)
  | otherwise (outcome : Outcome)
  deriving DecidableEq

/-- The contract with every virtual field replaced by its name. -/
def named : Contract → NamedContract
  | onArguments constraints o => .onArguments constraints o
  | onCondition c o => .onCondition c.left.named c.relation c.right.named o
  | otherwise o => .otherwise o

/-- The arrow before an outcome. -/
def arrow : List Char :=
  ['-', '>']

/-- The pieces of a list of constraints between its spaces.  Without constraints there is one
piece, which is empty. -/
def constraintPieces : List Constraint → List (List Char)
  | [] => [[]]
  | [c] => [c.text.toList]
  | c :: d :: cs => (c.text.toList ++ [',']) :: constraintPieces (d :: cs)

/-- The pieces of the text of a contract. -/
def pieces : Contract → List (List Char)
  | onArguments constraints o => constraintPieces constraints ++ [arrow, o.text.toList]
  | onCondition c o =>
    [c.left.text.toList, c.relation.symbol.toList, c.right.text.toList, arrow, o.text.toList]
  | otherwise o => [arrow, o.text.toList]

theorem unbroken_arrow :
  Text.Unbroken ' ' .outside arrow .outside
  := Text.unbroken_outside rfl

theorem unbroken_outcome (o : Outcome) :
  Text.Unbroken ' ' .outside o.text.toList .outside
  := by
  cases o with
  | _ => apply Text.unbroken_outside rfl

theorem unbroken_constraint (c : Constraint) :
  Text.Unbroken ' ' .outside c.text.toList .outside
  := by
  cases c with
  | _ => apply Text.unbroken_outside rfl

theorem unbroken_symbol (r : Relation) :
  Text.Unbroken ' ' .outside r.symbol.toList .outside
  := by
  cases r with
  | _ => apply Text.unbroken_outside rfl

theorem pieces_outcome (o : Outcome) :
  Text.pieces ' ' .outside (arrow ++ ' ' :: o.text.toList) = [arrow, o.text.toList]
  := by
  rw [unbroken_arrow.pieces_append, (unbroken_outcome o).pieces_eq]

theorem pieces_constraints (cs : List Constraint) (ds : List Char) :
  Text.pieces ' ' .outside ((", ".intercalate (cs.map Constraint.text)).toList ++ ' ' :: ds)
    = constraintPieces cs ++ Text.pieces ' ' .outside ds
  := by
  fun_induction constraintPieces cs with
  | case1 =>
    rw [List.map_nil, String.intercalate_nil]
    apply (Text.Unbroken.nil _).pieces_append
  | case2 c =>
    rw [List.map_singleton, String.intercalate_singleton]
    apply (unbroken_constraint c).pieces_append
  | case3 c d cs ih =>
    -- The comma belongs to the constraint before it, since only the space after it separates.
    have hcomma : Text.Unbroken ' ' .outside [','] .outside := Text.unbroken_outside rfl
    rw [List.map_cons, List.map_cons, String.intercalate_cons_cons, String.toList_append,
      String.toList_append, List.cons_append, ← ih,
      ← ((unbroken_constraint c).append hcomma).pieces_append]
    simp

/-- The text of a contract falls into its pieces at the spaces outside quotes. -/
theorem pieces_text (c : Contract) :
  Text.pieces ' ' .outside c.text.toList = c.pieces
  := by
  cases c with
  | onArguments constraints o =>
    rw [pieces, ← pieces_outcome, ← pieces_constraints, text]
    simp [arrow]
  | onCondition c o =>
    rw [pieces, ← pieces_outcome, ← c.right.unbroken_text.pieces_append,
      ← (unbroken_symbol c.relation).pieces_append, ← c.left.unbroken_text.pieces_append, text,
      Condition.text]
    simp [arrow]
  | otherwise o =>
    rw [pieces, ← pieces_outcome, text]
    simp [arrow]

/-! ### Reading contracts -/

theorem constraintPieces_ne_nil (cs : List Constraint) :
  constraintPieces cs ≠ []
  := by
  fun_cases constraintPieces cs with
  | _ => apply List.cons_ne_nil

theorem Constraint.text_ne_nil (c : Constraint) :
  c.text.toList ≠ []
  := by
  cases c <;> decide

/-- Lists of constraints with the same pieces are the same. -/
theorem constraintPieces_injective :
  Function.Injective constraintPieces
  := by
  intro cs ds h
  fun_induction constraintPieces cs generalizing ds with
  | case1 =>
    fun_cases constraintPieces ds with
    | case1 => rfl
    | case2 d => exact absurd (List.singleton_inj.mp h).symm d.text_ne_nil
    | case3 d e ds => exact absurd (List.cons.inj h).2.symm (constraintPieces_ne_nil _)
  | case2 c =>
    fun_cases constraintPieces ds with
    | case1 => exact absurd (List.singleton_inj.mp h) c.text_ne_nil
    | case2 d => rw [Constraint.text_injective (List.singleton_inj.mp h)]
    | case3 d e ds => exact absurd (List.cons.inj h).2.symm (constraintPieces_ne_nil _)
  | case3 c c' cs ih =>
    fun_cases constraintPieces ds with
    | case1 | case2 => exact absurd (List.cons.inj h).2 (constraintPieces_ne_nil _)
    | case3 d d' ds =>
      obtain ⟨hhead, htail⟩ := List.cons.inj h
      rw [Constraint.text_injective (List.append_cancel_right hhead), ih htail]

/-- The symbol of a relation is no piece of constraints. -/
theorem symbol_not_mem (r : Relation) (cs : List Constraint) :
  r.symbol.toList ∉ constraintPieces cs
  := by
  have hpiece (c : Constraint) :
      r.symbol.toList ≠ c.text.toList ∧ r.symbol.toList ≠ c.text.toList ++ [','] := by
    cases r <;> cases c <;> decide
  fun_induction constraintPieces cs with
  | case1 => cases r <;> decide
  | case2 c =>
    rw [List.mem_singleton]
    apply (hpiece c).1
  | case3 c _ _ ih =>
    rw [List.mem_cons, not_or]
    exact ⟨(hpiece c).2, ih⟩

variable {cs ds : List Constraint} {c d : Condition} {o o' : Outcome}

theorem pieces_eq_of_text_eq {c d : Contract} (h : c.text = d.text) :
  c.pieces = d.pieces
  := by
  rw [← pieces_text, ← pieces_text, h]

theorem outcome_eq (h : [arrow, o.text.toList] = [arrow, o'.text.toList]) :
  o = o'
  := by
  simp only [List.cons.injEq, true_and, and_true] at h
  apply Outcome.text_injective h

theorem text_onArguments_eq_iff :
  (onArguments cs o).text = (onArguments ds o').text ↔ cs = ds ∧ o = o'
  := by
  constructor
  · intro h
    obtain ⟨hcs, ho⟩ := List.append_inj' (pieces_eq_of_text_eq h) rfl
    exact ⟨constraintPieces_injective hcs, outcome_eq ho⟩
  · rintro ⟨rfl, rfl⟩
    rfl

theorem text_onCondition_eq_iff :
  (onCondition c o).text = (onCondition d o').text
    ↔ c.left.named = d.left.named ∧ c.relation = d.relation ∧ c.right.named = d.right.named
      ∧ o = o'
  := by
  rw [← Term.text_eq_iff, ← Term.text_eq_iff]
  constructor
  · intro h
    obtain ⟨hleft, h⟩ := List.cons.inj (pieces_eq_of_text_eq h)
    obtain ⟨hrelation, h⟩ := List.cons.inj h
    obtain ⟨hright, ho⟩ := List.cons.inj h
    exact ⟨String.toList_injective hleft, Relation.symbol_injective hrelation,
      String.toList_injective hright, outcome_eq ho⟩
  · rintro ⟨hleft, hrelation, hright, rfl⟩
    rw [text, text, Condition.text, Condition.text, hleft, hrelation, hright]

theorem text_otherwise_eq_iff :
  (otherwise o).text = (otherwise o').text ↔ o = o'
  := by
  constructor
  · intro h
    apply outcome_eq (pieces_eq_of_text_eq h)
  · intro h
    rw [h]

/-- A condition has a relation, which is no constraint. -/
theorem text_onArguments_ne_onCondition :
  (onArguments cs o).text ≠ (onCondition c o').text
  := by
  intro h
  have hpieces := pieces_eq_of_text_eq h
  have hsymbol : c.relation.symbol.toList ∈ (onArguments cs o).pieces := by
    rw [hpieces, pieces]
    simp
  rw [pieces, List.mem_append] at hsymbol
  rcases hsymbol with hsymbol | hsymbol
  · apply symbol_not_mem _ _ hsymbol
  · revert hsymbol
    cases c.relation <;> cases o <;> decide

/-- Even without constraints there is a piece before the arrow. -/
theorem text_onArguments_ne_otherwise :
  (onArguments cs o).text ≠ (otherwise o').text
  := by
  intro h
  have hpieces : constraintPieces cs ++ [arrow, o.text.toList] = [] ++ [arrow, o'.text.toList] :=
    pieces_eq_of_text_eq h
  apply constraintPieces_ne_nil cs (List.append_inj' hpieces rfl).1

theorem text_onCondition_ne_otherwise :
  (onCondition c o).text ≠ (otherwise o').text
  := by
  intro h
  have hlength := congrArg List.length (pieces_eq_of_text_eq h)
  cases hlength

/-- Contracts have the same text exactly if they become equal when each virtual field is replaced
by its name. -/
theorem text_eq_iff_named_eq (c d : Contract) :
  c.text = d.text ↔ c.named = d.named
  := by
  cases c with
  | onArguments cs o =>
    cases d with
    | onArguments ds o' =>
      rw [text_onArguments_eq_iff, named, named, NamedContract.onArguments.injEq]
    | onCondition => exact iff_of_false text_onArguments_ne_onCondition nofun
    | otherwise => exact iff_of_false text_onArguments_ne_otherwise nofun
  | onCondition c o =>
    cases d with
    | onArguments => exact iff_of_false text_onArguments_ne_onCondition.symm nofun
    | onCondition d o' =>
      rw [text_onCondition_eq_iff, named, named, NamedContract.onCondition.injEq]
    | otherwise => exact iff_of_false text_onCondition_ne_otherwise nofun
  | otherwise o =>
    cases d with
    | onArguments => exact iff_of_false text_onArguments_ne_otherwise.symm nofun
    | onCondition => exact iff_of_false text_onCondition_ne_otherwise.symm nofun
    | otherwise => rw [text_otherwise_eq_iff, named, named, NamedContract.otherwise.injEq]

/-- The lengths of an array and of a string have the same name. -/
example :
  (onCondition ⟨.field .receiver .arrayLength, .eq, .zero⟩ .returnsTrue).text
    = (onCondition ⟨.field .receiver .stringLength, .eq, .zero⟩ .returnsTrue).text
  := rfl

end Contract

end VirtualFields
