import Mathlib.Data.Char
import Mathlib.Data.List.Lex

/-!
# Bytes of texts

A text is stored as the bytes of its characters in UTF-8.  A character with a smaller code point
has the smaller bytes, and no character's bytes begin with those of another character, so the
lexicographic order of bytes is the order of texts by code points (`Text.lt_iff_bytes_lt`).
-/

namespace VirtualFields.Text

open String (utf8EncodeChar)

/-- The bytes of a text in UTF-8. -/
def bytes (s : String) : List UInt8 :=
  s.toUTF8.data.toList

theorem bytes_eq (s : String) :
  bytes s = s.toList.flatMap utf8EncodeChar
  := by
  rw [bytes, String.toUTF8_eq_toByteArray, ← String.utf8Encode_toList, List.utf8Encode,
    List.toList_data_toByteArray]

/-! ### Bytes of characters -/

/-- Lists of bytes are compared by their first bytes, and by the rest if these are the same. -/
theorem cons_byte_lt_iff {m n : Nat} (hm : m < 256) (hn : n < 256) {xs ys : List UInt8} :
  UInt8.ofNat m :: xs < UInt8.ofNat n :: ys ↔ m < n ∨ m = n ∧ xs < ys
  := by
  rw [List.cons_lt_cons_iff, UInt8.lt_iff_toNat_lt, ← UInt8.toNat_inj,
    UInt8.toNat_ofNat_of_lt' hm, UInt8.toNat_ofNat_of_lt' hn]

theorem code_lt (c : Char) :
  c.val.toNat < 0x110000
  := by
  rcases c.valid with h | h
  · exact h.trans (by decide)
  · exact h.2

/-- The bytes of a smaller character are smaller, whatever follows. -/
theorem encode_append_lt {c d : Char} (h : c < d) (xs ys : List UInt8) :
  utf8EncodeChar c ++ xs < utf8EncodeChar d ++ ys
  := by
  have hlt : c.val.toNat < d.val.toNat := h
  have hd := code_lt d
  rw [utf8EncodeChar, utf8EncodeChar]
  generalize c.val.toNat = m at hlt ⊢
  generalize d.val.toNat = n at hlt hd ⊢
  -- A byte holds six bits of the code point, and the first byte of four holds the other three.
  have hbits (k : Nat) (hk : k < 0x110000) :
      k / 64 / 64 = k / 4096 ∧ k / 4096 / 64 = k / 262144 ∧ k / 262144 % 8 = k / 262144 := by
    omega
  have hmbits := hbits m (hlt.trans hd)
  have hnbits := hbits n hd
  split_ifs
  all_goals
    simp (disch := omega) only [List.cons_append, List.nil_append, cons_byte_lt_iff]
    omega

/-! ### Bytes of texts -/

theorem flatMap_encode_lt {cs ds : List Char} (h : cs < ds) :
  cs.flatMap utf8EncodeChar < ds.flatMap utf8EncodeChar
  := by
  induction cs generalizing ds with
  | nil =>
    cases ds with
    | nil => cases h
    | cons d ds =>
      obtain ⟨b, bs, hb⟩ := List.exists_cons_of_ne_nil (String.utf8EncodeChar_ne_nil (c := d))
      rw [List.flatMap_nil, List.flatMap_cons, hb]
      apply List.nil_lt_cons
  | cons c cs ih =>
    cases ds with
    | nil => cases h
    | cons d ds =>
      rw [List.flatMap_cons, List.flatMap_cons]
      rcases List.cons_lt_cons_iff.mp h with hlt | ⟨rfl, hlt⟩
      · apply encode_append_lt hlt
      · apply List.append_left_lt
        apply ih hlt

/-- Texts are ordered as their bytes are. -/
theorem lt_iff_bytes_lt (s t : String) :
  s < t ↔ bytes s < bytes t
  := by
  rw [bytes_eq, bytes_eq, String.lt_iff]
  constructor
  · apply flatMap_encode_lt
  · intro h
    rcases lt_trichotomy s.toList t.toList with hlt | heq | hgt
    · apply hlt
    · rw [heq] at h
      exact absurd h (List.lt_irrefl _)
    · exact absurd (flatMap_encode_lt hgt) (List.lt_asymm h)

/-- Texts are compared as their bytes are. -/
theorem compare_eq_lt_iff {s t : String} :
  compare s t = .lt ↔ bytes s < bytes t
  := by
  rw [← lt_iff_bytes_lt]
  apply compareOfLessAndEq_eq_lt

end VirtualFields.Text
