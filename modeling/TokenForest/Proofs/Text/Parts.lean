import Mathlib.Data.List.TakeWhile
import TokenForest.Proofs.Text.Quoting

set_option autoImplicit false

namespace TokenForest

namespace Text

theorem split_unique {inside : Char → Bool} {front other back more : List Char}
    (own : ∀ c ∈ front, inside c = true) (others : ∀ c ∈ other, inside c = true)
    (stops : ∀ c ∈ back.head?, inside c = false) (ends : ∀ c ∈ more.head?, inside c = false)
    (same : front ++ back = other ++ more) : front = other ∧ back = more := by
  have part {front back : List Char} (own : ∀ c ∈ front, inside c = true)
      (stops : ∀ c ∈ back.head?, inside c = false) : (front ++ back).takeWhile inside = front := by
    rw [List.takeWhile_append_of_pos own]
    cases back with
    | nil => simp
    | cons c rest => simp [stops c rfl]
  have fronts : front = other := by rw [← part own stops, same, part others ends]
  subst fronts
  exact ⟨rfl, List.append_cancel_left same⟩

theorem split_unique_at {separator : Char} {front other back more : List Char} (own : separator ∉ front)
    (others : separator ∉ other) (same : front ++ separator :: back = other ++ separator :: more) :
    front = other ∧ back = more := by
  have apart {text : List Char} (none : separator ∉ text) : ∀ c ∈ text, (c != separator) = true := by
    intro c inside
    simpa using fun equal : c = separator => none (equal ▸ inside)
  obtain ⟨fronts, backs⟩ := split_unique (apart own) (apart others) (by simp) (by simp) same
  exact ⟨fronts, (List.cons.inj backs).2⟩

theorem isDigit_of_mem_toString {number : Nat} : ∀ c ∈ (toString number).toList, c.isDigit = true := by
  intro c inside
  rw [Nat.toString_eq_ofList_toDigits, String.toList_ofList] at inside
  exact Nat.isDigit_of_mem_toDigits (by omega) (by omega) inside

theorem toString_unique {number other : Nat} {back more : List Char} (stops : ∀ c ∈ back.head?, c.isDigit = false)
    (ends : ∀ c ∈ more.head?, c.isDigit = false)
    (same : (toString number).toList ++ back = (toString other).toList ++ more) : number = other ∧ back = more := by
  obtain ⟨digits, backs⟩ := split_unique isDigit_of_mem_toString isDigit_of_mem_toString stops ends same
  have read := congrArg (Nat.ofDigitChars 10 · 0) digits
  exact ⟨by simpa [Nat.toString_eq_ofList_toDigits] using read, backs⟩

theorem digitChar_injective {a b : Nat} (small : a < 16) (less : b < 16) (same : Nat.digitChar a = Nat.digitChar b) :
    a = b := by
  have distinct : ∀ a b : Fin 16, Nat.digitChar a = Nat.digitChar b → a = b := by decide
  exact congrArg Fin.val (distinct ⟨a, small⟩ ⟨b, less⟩ same)

theorem length_toDigits_eq_one_iff (number : Nat) : (Nat.toDigits 16 number).length = 1 ↔ number < 16 := by
  rw [Nat.toDigits_eq_if (by omega)]
  split
  · simpa
  · simpa [Nat.toDigits_ne_nil] using by omega

theorem toDigits_injective {a b : Nat} (same : Nat.toDigits 16 a = Nat.toDigits 16 b) : a = b := by
  induction a using Nat.strongRecOn generalizing b with
  | ind a ih =>
    have small : a < 16 ↔ b < 16 := by rw [← length_toDigits_eq_one_iff, ← length_toDigits_eq_one_iff, same]
    by_cases short : a < 16
    · rw [Nat.toDigits_of_lt_base short, Nat.toDigits_of_lt_base (small.1 short)] at same
      exact digitChar_injective short (small.1 short) (List.singleton_inj.1 same)
    · have long : ¬ b < 16 := mt small.2 short
      have longer (number : Nat) (large : ¬ number < 16) :
          Nat.toDigits 16 number = Nat.toDigits 16 (number / 16) ++ [Nat.digitChar (number % 16)] :=
        Nat.toDigits_of_base_le (by omega) (by omega)
      rw [longer a short, longer b long] at same
      obtain ⟨fronts, lasts⟩ := List.append_inj' same rfl
      have quotients : a / 16 = b / 16 := ih _ (by omega) fronts
      have remainders : a % 16 = b % 16 :=
        digitChar_injective (by omega) (by omega) (List.singleton_inj.1 lasts)
      omega

theorem escapeLetter_mem {c letter : Char} (escaped : escapeLetter c = some letter) :
    letter ∈ ['0', 't', 'n', 'r', '"', '\\'] := by
  unfold escapeLetter at escaped
  split at escaped <;> cases escaped <;> decide

theorem escapeLetter_inj {c d letter : Char} (own : escapeLetter c = some letter) (other : escapeLetter d = some letter) :
    c = d := by
  unfold escapeLetter at own other
  split at own <;> cases own <;> split at other <;> simp_all

inductive Written (c : Char) : List Char → Prop
  | plain (bare : c ≠ '\\' ∧ c ≠ '"') : Written c [c]
  | letter {letter : Char} (escaped : escapeLetter c = some letter) : Written c ['\\', letter]
  | code : Written c (['\\', 'u', '\x7b'] ++ Nat.toDigits 16 c.toNat ++ ['\x7d'])

theorem written_escapedChar (c : Char) : Written c (escapedChar c) := by
  unfold escapedChar
  split
  · next letter escaped => exact .letter escaped
  · next shown =>
    split
    · refine .plain ⟨?_, ?_⟩ <;>
      · rintro rfl
        cases shown
    · exact .code

namespace Written

variable {c d : Char} {own other back more : List Char}

theorem ne_quote (written : Written c own) (rest after : List Char) : own ++ rest ≠ '"' :: after := by
  cases written with
  | plain bare => simp [bare.2]
  | letter | code => simp

theorem unique (first : Written c own) (second : Written d other) (same : own ++ back = other ++ more) :
    c = d ∧ back = more := by
  have closed (number : Nat) : '\x7d' ∉ Nat.toDigits 16 number := by
    intro inside
    obtain ⟨digit, equal⟩ := digitChar_of_mem_toDigits (by omega) inside
    exact Nat.digitChar_ne '\x7d' rfl equal.symm
  cases first with
  | plain bare =>
    cases second with
    | plain => simpa using same
    | letter | code => exact absurd (List.cons.inj same).1 bare.1
  | letter escaped =>
    cases second with
    | plain bare => exact absurd (List.cons.inj same).1.symm bare.1
    | letter others =>
      obtain ⟨rfl, backs⟩ : _ ∧ back = more := by simpa using same
      exact ⟨escapeLetter_inj escaped others, backs⟩
    | code =>
      obtain ⟨rfl, -⟩ : _ = 'u' ∧ _ := by simpa using same
      exact absurd (escapeLetter_mem escaped) (by decide)
  | code =>
    cases second with
    | plain bare => exact absurd (List.cons.inj same).1.symm bare.1
    | letter others =>
      obtain ⟨rfl, -⟩ : 'u' = _ ∧ _ := by simpa using same
      exact absurd (escapeLetter_mem others) (by decide)
    | code =>
      have digits : Nat.toDigits 16 c.toNat ++ '\x7d' :: back = Nat.toDigits 16 d.toNat ++ '\x7d' :: more := by
        simpa using same
      obtain ⟨codes, backs⟩ := split_unique_at (closed _) (closed _) digits
      exact ⟨Char.toNat_inj.1 (toDigits_injective codes), backs⟩

end Written

theorem quoted_unique {a b back more : List Char}
    (same : a.flatMap escapedChar ++ '"' :: back = b.flatMap escapedChar ++ '"' :: more) : a = b ∧ back = more := by
  induction a generalizing b with
  | nil =>
    cases b with
    | nil => simpa using same
    | cons d others =>
      rw [List.flatMap_cons, List.append_assoc] at same
      exact absurd same.symm ((written_escapedChar d).ne_quote _ _)
  | cons c rest ih =>
    cases b with
    | nil =>
      rw [List.flatMap_cons, List.append_assoc] at same
      exact absurd same ((written_escapedChar c).ne_quote _ _)
    | cons d others =>
      rw [List.flatMap_cons, List.flatMap_cons, List.append_assoc, List.append_assoc] at same
      obtain ⟨rfl, later⟩ := (written_escapedChar c).unique (written_escapedChar d) same
      obtain ⟨rfl, backs⟩ := ih later
      exact ⟨rfl, backs⟩

theorem quote_unique {a b : String} {back more : List Char}
    (same : (quote a).toList ++ back = (quote b).toList ++ more) : a = b ∧ back = more := by
  have inner : a.toList.flatMap escapedChar ++ '"' :: back = b.toList.flatMap escapedChar ++ '"' :: more := by
    simpa [quote] using same
  obtain ⟨texts, backs⟩ := quoted_unique inner
  exact ⟨String.toList_injective texts, backs⟩

end Text

theorem Position.render_unique {a b : Position} {back more : List Char} (stops : ∀ c ∈ back.head?, c.isDigit = false)
    (ends : ∀ c ∈ more.head?, c.isDigit = false) (same : a.render.toList ++ back = b.render.toList ++ more) :
    a = b ∧ back = more := by
  simp only [render, String.toList_append, List.append_assoc] at same
  have colon (rest : List Char) : ∀ c ∈ (":".toList ++ rest).head?, c.isDigit = false := by
    intro c first
    cases first
    decide
  obtain ⟨line, after⟩ := Text.toString_unique (colon _) (colon _) (List.append_cancel_left same)
  obtain ⟨column, backs⟩ := Text.toString_unique stops ends (List.append_cancel_left after)
  cases a
  cases b
  cases UInt32.toNat_inj.1 line
  cases UInt32.toNat_inj.1 column
  exact ⟨rfl, backs⟩

theorem Token.render_unique {a b : Token} {back more : List Char} (stops : ∀ c ∈ back.head?, c.isDigit = false)
    (ends : ∀ c ∈ more.head?, c.isDigit = false) (same : a.render.toList ++ back = b.render.toList ++ more) :
    a.text = b.text ∧ a.position = b.position ∧ back = more := by
  simp only [render, String.toList_append, List.append_assoc] at same
  obtain ⟨text, after⟩ := Text.quote_unique same
  obtain ⟨position, backs⟩ := Position.render_unique stops ends (List.append_cancel_left after)
  exact ⟨text, position, backs⟩

end TokenForest
