import Mathlib.Algebra.GroupWithZero.Nat
import VirtualFields.Proofs.Derivation.Lengths
import VirtualFields.Proofs.Expr.Kind
import VirtualFields.Samples

/-!
# Lengths of concatenations

A concatenation is an expression made by additions from literals, where each addition has an
operand that folds to a string.  It folds to the texts of the literals from left to right, however
they are bracketed, and its length is the sum of the lengths of these texts.  A variable that
stands for a trusted static final field with such an initializer, and the literal string, have
this length alike (`VirtualField.length_concatenation`).
-/

namespace VirtualFields

namespace Text

/-! ### Lengths of joined texts -/

theorem unitLength_eq_sum (s : String) :
  unitLength s = (s.toList.map units).sum
  := by
  rw [unitLength, List.sum_eq_foldr, List.foldr_map]

theorem unitLength_append (s t : String) :
  unitLength (s ++ t) = unitLength s + unitLength t
  := by
  rw [unitLength_eq_sum, unitLength_eq_sum, unitLength_eq_sum, String.toList_append,
    List.map_append, List.sum_append]

/-- The length of texts that are joined is the sum of their lengths. -/
theorem unitLength_join (ss : List String) :
  unitLength (String.join ss) = (ss.map unitLength).sum
  := by
  induction ss with
  | nil => rfl
  | cons s ss ih => rw [String.join_cons, unitLength_append, ih, List.map_cons, List.sum_cons]

end Text

namespace Expr

variable {depth : Nat} {cs : List Constant} {d e : Expr} {a b : Constant}

/-! ### Concatenations -/

/-- An expression folds to a string. -/
def FoldsToString (depth : Nat) (e : Expr) : Prop :=
  ∃ s, e.fold depth = some (.str s)

/-- An expression that concatenates literals, listed from left to right, by additions with at
least one operand that folds to a string. -/
inductive Concatenation (depth : Nat) : List Constant → Expr → Prop where
  | literal (c) : Concatenation depth [c] (.literal c)
  | add {bs cs d e} (hd : Concatenation depth bs d) (he : Concatenation depth cs e)
      (hstr : d.FoldsToString depth ∨ e.FoldsToString depth) :
      Concatenation depth (bs ++ cs) (.binary (.arithmetic .add) d e)

/-- The text of literals that are written one after the other. -/
def joinedText (cs : List Constant) : String :=
  String.join (cs.map Constant.text)

theorem joinedText_append (bs cs : List Constant) :
  joinedText (bs ++ cs) = joinedText bs ++ joinedText cs
  := by
  rw [joinedText, List.map_append, String.join_append]
  rfl

/-- An addition with an operand that folds to a string appends the texts of its operands. -/
theorem fold_add_of_string (hd : d.fold depth = some a) (he : e.fold depth = some b)
    (hstr : d.FoldsToString depth ∨ e.FoldsToString depth) :
  (binary (.arithmetic .add) d e).fold depth = some (.str (a.text ++ b.text))
  := by
  have hconcatenates : (BinaryOp.arithmetic .add).concatenates a b := by
    rw [BinaryOp.concatenates_iff]
    use rfl
    rcases hstr with ⟨s, hs⟩ | ⟨s, hs⟩
    · left
      cases hd.symm.trans hs
      rfl
    · right
      cases he.symm.trans hs
      rfl
  rw [fold_binary _ hd he, BinaryOp.eval?.eq_def, if_pos hconcatenates]

namespace Concatenation

/-- A concatenation folds to a constant with the text of its literals.  If it is no literal
itself, this constant is a string. -/
theorem fold_text (h : Concatenation depth cs e) :
  ∃ c, e.fold depth = some c ∧ c.text = joinedText cs
    ∧ ((∀ k, e ≠ .literal k) → c = .str (joinedText cs))
  := by
  -- A literal of another kind becomes text by the addition above it only, so the induction is
  -- carried by the texts.
  induction h with
  | literal c =>
    use c, rfl
    constructor
    · simp [joinedText]
    · intro hop
      exact absurd rfl (hop c)
  | @add bs cs d e _ _ hstr ihd ihe =>
    obtain ⟨a, ha, hatext, -⟩ := ihd
    obtain ⟨b, hb, hbtext, -⟩ := ihe
    use .str (joinedText (bs ++ cs))
    rw [fold_add_of_string ha hb hstr, hatext, hbtext, joinedText_append]
    exact ⟨rfl, rfl, fun _ => rfl⟩

theorem fold_eq (h : Concatenation depth cs e) (hop : ∀ k, e ≠ .literal k) :
  e.fold depth = some (.str (joinedText cs))
  := by
  obtain ⟨c, hc, -, hstr⟩ := h.fold_text
  rw [hc, hstr hop]

end Concatenation

end Expr

namespace VirtualField

/-- A count that an `int` can hold has a length constant, the `int` of the count. -/
theorem exists_lengthConstant? {n : Nat} (hn : n ≤ 2147483647) :
  ∃ m : Int32, m.toInt = n ∧ lengthConstant? n = some (.int m)
  := by
  have hlt : n < 0x80000000 := Nat.lt_succ_of_le hn
  use .ofNat n, Int32.toInt_ofNat_of_lt hlt
  apply if_pos hlt

theorem lengthConstant?_eq_none {n : Nat} (hn : 2147483647 < n) :
  lengthConstant? n = none
  := by
  apply if_neg
  apply Nat.not_lt_of_le hn

/-- A concatenation folds to the texts of its literals from left to right, and so do all
concatenations of the same literals.  Its length is the sum of the lengths of these texts if an
`int` can hold it, and has no value otherwise.  This is also the length of a variable that stands
for a trusted static final field with the concatenation for its initializer, and the length of the
literal string. -/
theorem length_concatenation (depth : Nat) {cs : List Constant} {e : Expr}
    (h : Expr.Concatenation depth cs e) (hop : ∀ c, e ≠ .literal c) :
  let total := (cs.map fun c => Text.unitLength c.text).sum
  e.fold depth = some (.str (String.join (cs.map Constant.text)))
    ∧ (∀ depth' e', Expr.Concatenation depth' cs e' → (∀ c, e' ≠ .literal c) →
      e'.fold depth' = e.fold depth)
    ∧ (total ≤ 2147483647 → ∃ n : Int32, n.toInt = total
      ∧ stringLength.ofInitializer? depth e = some (.int n)
      ∧ ∀ (env : Collaborators) (t t' : VariableTable) (v : Variable Ref) (d : Field Expr)
          (target target' : Option Ty),
        env.evaluate? = Expr.fold depth → v.field? = some d → env.trusts d →
          d.staticInitializer? = some e →
            (stringLength.create env t (some (.var v)) target).answer = .constant (.int n)
            ∧ (stringLength.create env t'
                (some (.constant (.str (String.join (cs.map Constant.text))))) target').answer
              = .constant (.int n))
    ∧ (2147483647 < total → stringLength.ofInitializer? depth e = none)
  := by
  intro total
  have hfold := h.fold_eq hop
  have htotal : Text.unitLength (Expr.joinedText cs) = total := by
    rw [Expr.joinedText, Text.unitLength_join, List.map_map]
    rfl
  have hliteral : stringLength.ofConstant? (.str (Expr.joinedText cs)) = lengthConstant? total := by
    rw [← htotal]
    rfl
  have hlength : stringLength.ofInitializer? depth e = lengthConstant? total := by
    rw [ofInitializer?, ofInitializerBy?, hfold, Option.bind_some, hliteral]
  and_intros
  · exact hfold
  · intro depth' e' h' hop'
    rw [hfold, h'.fold_eq hop']
  · intro hle
    obtain ⟨n, hn, hconstant⟩ := exists_lengthConstant? hle
    use n, hn, hlength.trans hconstant
    intro env t t' v d target target' heval hd htrust hinitializer
    constructor
    · rw [create_var_eq_constant_iff, ofTrusted?_eq_some_iff, heval]
      use d, e, hd, htrust, hinitializer, hlength.trans hconstant
    · rw [create_constant_eq_constant_iff]
      exact hliteral.trans hconstant
  · intro hlt
    rw [hlength, lengthConstant?_eq_none hlt]

/-! ### Labels -/

/-- The parts of a label. -/
def labelParts : List Constant := [.str "n=", .int 1, .str "", .char '😀']

/-- The sum of the parts of a label, added up in pairs. -/
def labelInPairs : Expr :=
  .binary (.arithmetic .add)
    (.binary (.arithmetic .add) (.literal (.str "n=")) (.literal (.int 1)))
    (.binary (.arithmetic .add) (.literal (.str "")) (.literal (.char '😀')))

/-- The sum of the parts of a label, added up from left to right. -/
def labelInOrder : Expr :=
  .binary (.arithmetic .add)
    (.binary (.arithmetic .add)
      (.binary (.arithmetic .add) (.literal (.str "n=")) (.literal (.int 1)))
      (.literal (.str "")))
    (.literal (.char '😀'))

/-- The variable of a string field with an initializer. -/
def labelVariable (initializer : Expr) : Variable Ref where
  ref := ⟨0, 0⟩
  descriptor := .element (.member (.field
    (Samples.staticFinalField "LABEL" (.raw ClassName.string) initializer)))
  qualifier := none
  type := some (.raw ClassName.string)

/-- The label has five UTF-16 units, two of them for its last character, whichever way
its parts are added up and whether it is read from the initializer or from the literal. -/
theorem length_concatenation_label :
  let t : VariableTable := { label := 0 }
  Expr.Concatenation 16 labelParts labelInPairs ∧ (∀ c, labelInPairs ≠ .literal c)
    ∧ labelInOrder.fold 16 = labelInPairs.fold 16
    ∧ labelInPairs.fold 16 = some (.str "n=1😀")
    ∧ ∃ n : Int32, n.toInt = 5
      ∧ (stringLength.create .stock t (some (.var (labelVariable labelInPairs))) none).answer
        = .constant (.int n)
      ∧ (stringLength.create .stock t (some (.constant (.str "n=1😀"))) none).answer
        = .constant (.int n)
  := by
  intro t
  have hnumber : Expr.Concatenation 16 [.str "n=", .int 1] _ :=
    .add (.literal _) (.literal _) (Or.inl ⟨"n=", rfl⟩)
  have hcharacter : Expr.Concatenation 16 [.str "", .char '😀'] _ :=
    .add (.literal _) (.literal _) (Or.inl ⟨"", rfl⟩)
  have hnumberString : Expr.FoldsToString 16 _ := ⟨_, hnumber.fold_eq nofun⟩
  have hpairs : Expr.Concatenation 16 labelParts labelInPairs :=
    hnumber.add hcharacter (Or.inl hnumberString)
  have hempty : Expr.Concatenation 16 [.str "n=", .int 1, .str ""] _ :=
    hnumber.add (.literal _) (Or.inl hnumberString)
  have horder : Expr.Concatenation 16 labelParts labelInOrder :=
    hempty.add (.literal _) (Or.inl ⟨_, hempty.fold_eq nofun⟩)
  obtain ⟨hfold, hbrackets, hlength, -⟩ := length_concatenation 16 hpairs nofun
  obtain ⟨n, hn, -, hcreate⟩ := hlength (by decide +kernel)
  obtain ⟨hvariable, hliteral⟩ := hcreate .stock t t (labelVariable labelInPairs) _ none none
    rfl rfl (by decide +kernel) (by decide +kernel)
  have htext : String.join (labelParts.map Constant.text) = "n=1😀" := by decide +kernel
  have htotal : (labelParts.map fun c => Text.unitLength c.text).sum = 5 := by decide +kernel
  rw [htext] at hfold hliteral
  rw [htotal] at hn
  use hpairs, nofun, hbrackets 16 labelInOrder horder nofun, hfold, n, hn, hvariable

end VirtualField

end VirtualFields
