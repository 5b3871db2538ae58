import Mathlib.Data.List.Lex

set_option autoImplicit false

namespace TokenForest.Text

def bytes (text : String) : List UInt8 :=
  text.toUTF8.data.toList

theorem bytes_eq_flatMap (text : String) : bytes text = text.toList.flatMap String.utf8EncodeChar := by
  have whole : text = String.ofList text.toList := String.ofList_toList.symm
  conv_lhs => rw [bytes, whole, String.toUTF8_eq_toByteArray, String.toByteArray_ofList, List.utf8Encode]
  exact List.toList_data_toByteArray

theorem lex_utf8EncodeChar {c d : Char} (less : c < d) (after beyond : List UInt8) :
    List.Lex (· < ·) (String.utf8EncodeChar c ++ after) (String.utf8EncodeChar d ++ beyond) := by
  have below : c.val.toNat < d.val.toNat := less
  have bound : d.val.toNat < 0x110000 := by
    have valid := d.valid
    simp only [UInt32.isValidChar, Nat.isValidChar] at valid
    omega
  have nested (code : Nat) : code / 4096 = code / 64 / 64 ∧ code / 262144 = code / 64 / 64 / 64 := by omega
  simp only [String.utf8EncodeChar, (nested _).1, (nested _).2]
  -- A longer encoding begins with a greater byte; of two that are as long, the first six bits that differ decide.
  split_ifs <;>
    simp only [List.cons_append, List.nil_append, List.cons_lex_cons_iff, UInt8.lt_iff_toNat_lt, ← UInt8.toNat_inj,
      UInt8.toNat_ofNat', Nat.reducePow] <;>
    omega

theorem lex_flatMap_utf8EncodeChar {a b : List Char} (less : List.Lex (· < ·) a b) :
    List.Lex (· < ·) (a.flatMap String.utf8EncodeChar) (b.flatMap String.utf8EncodeChar) := by
  induction less with
  | nil =>
    obtain ⟨byte, more, encoded⟩ := List.exists_cons_of_ne_nil (String.utf8EncodeChar_ne_nil)
    rw [List.flatMap_cons, encoded]
    exact .nil
  | cons _ ih =>
    rw [List.flatMap_cons, List.flatMap_cons]
    exact ih.append_left _ _
  | rel less =>
    rw [List.flatMap_cons, List.flatMap_cons]
    exact lex_utf8EncodeChar less _ _

theorem bytes_lt_of_lt {a b : String} (less : a < b) : bytes a < bytes b := by
  rw [bytes_eq_flatMap, bytes_eq_flatMap]
  exact lex_flatMap_utf8EncodeChar less

theorem bytes_lt_iff {a b : String} : bytes a < bytes b ↔ a < b := by
  constructor
  · intro less
    rcases Std.lt_trichotomy a b with same | rfl | more
    · exact same
    · exact absurd less (List.lt_irrefl _)
    · exact absurd less (List.lt_asymm (bytes_lt_of_lt more))
  · exact bytes_lt_of_lt

end TokenForest.Text
