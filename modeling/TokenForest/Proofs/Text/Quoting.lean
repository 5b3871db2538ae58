import Mathlib.Data.Nat.Digits.Lemmas
import TokenForest.Token

set_option autoImplicit false

namespace TokenForest

namespace Text

def Unbroken (text : List Char) : Prop :=
  ∀ c ∈ text, c ≠ '\n' ∧ c ≠ '\r'

theorem unbroken_append {front back : List Char} : Unbroken (front ++ back) ↔ Unbroken front ∧ Unbroken back :=
  List.forall_mem_append

theorem Unbroken.newline_not_mem {text : List Char} (unbroken : Unbroken text) : '\n' ∉ text :=
  fun inside => (unbroken _ inside).1 rfl

theorem Unbroken.getLast?_ne_return {text : List Char} (unbroken : Unbroken text) : text.getLast? ≠ some '\r' :=
  fun last => (unbroken _ (List.mem_of_getLast? last)).2 rfl

theorem Unbroken.intercalate {separator : List Char} (between : Unbroken separator) {pieces : List (List Char)}
    (unbroken : ∀ piece ∈ pieces, Unbroken piece) : Unbroken (separator.intercalate pieces) := by
  induction pieces with
  | nil => simp [Unbroken]
  | cons piece rest ih =>
    obtain ⟨own, later⟩ := List.forall_mem_cons.1 unbroken
    cases rest with
    | nil => simpa using own
    | cons next more =>
      rw [List.intercalate_cons_cons]
      exact unbroken_append.2 ⟨unbroken_append.2 ⟨own, between⟩, ih later⟩

theorem digitChar_of_mem_toDigits {base number : Nat} (large : 1 < base) {c : Char}
    (inside : c ∈ Nat.toDigits base number) : ∃ digit, c = Nat.digitChar digit := by
  induction number using Nat.strongRecOn with
  | ind number ih =>
    rw [Nat.toDigits_eq_if large] at inside
    split at inside
    · exact ⟨number, List.mem_singleton.1 inside⟩
    · next many =>
      have fewer : number / base < number := Nat.div_lt_self (by omega) large
      rcases List.mem_append.1 inside with earlier | last
      · exact ih _ fewer earlier
      · exact ⟨number % base, List.mem_singleton.1 last⟩

theorem unbroken_toDigits {base : Nat} (large : 1 < base) (number : Nat) : Unbroken (Nat.toDigits base number) := by
  intro c inside
  obtain ⟨digit, rfl⟩ := digitChar_of_mem_toDigits large inside
  exact ⟨Nat.digitChar_ne '\n' rfl, Nat.digitChar_ne '\r' rfl⟩

theorem unbroken_escapedChar (c : Char) : Unbroken (escapedChar c) := by
  unfold escapedChar
  split
  · next letter escaped =>
    unfold escapeLetter at escaped
    split at escaped <;> cases escaped <;> simp [Unbroken]
  · next none =>
    split
    · have newline : c ≠ '\n' := by
        rintro rfl
        cases none
      have carriage : c ≠ '\r' := by
        rintro rfl
        cases none
      simp [Unbroken, newline, carriage]
    · rw [unbroken_append, unbroken_append]
      exact ⟨⟨by simp [Unbroken], unbroken_toDigits (by omega) _⟩, by simp [Unbroken]⟩

theorem unbroken_quote (text : String) : Unbroken (quote text).toList := by
  have inside : Unbroken (text.toList.flatMap escapedChar) := by
    intro c member
    obtain ⟨d, -, own⟩ := List.mem_flatMap.1 member
    exact unbroken_escapedChar d c own
  rw [quote, String.toList_ofList, unbroken_append, unbroken_append]
  exact ⟨⟨by simp [Unbroken], inside⟩, by simp [Unbroken]⟩

end Text

theorem Position.unbroken_render (position : Position) : Text.Unbroken position.render.toList := by
  have number (count : Nat) : Text.Unbroken (toString count).toList := by
    rw [Nat.toString_eq_ofList_toDigits, String.toList_ofList]
    exact Text.unbroken_toDigits (by omega) count
  simp only [render, String.toList_append, Text.unbroken_append]
  exact ⟨⟨⟨by simp [Text.Unbroken], number _⟩, by simp [Text.Unbroken]⟩, number _⟩

theorem Token.unbroken_render (token : Token) : Text.Unbroken token.render.toList := by
  simp only [render, String.toList_append, Text.unbroken_append]
  exact ⟨⟨Text.unbroken_quote token.text, by simp [Text.Unbroken]⟩, token.position.unbroken_render⟩

end TokenForest
