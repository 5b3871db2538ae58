import Mathlib.Data.List.Basic
import TokenForest.Proofs.Dump.Reading

set_option autoImplicit false

namespace TokenForest.Dump

inductive Spelling : Char → List Char → Prop
  | plain {c : Char} (apart : c ≠ '\\') : Spelling c [c]
  | backslash : Spelling '\\' ['\\', '\\']
  | lineFeed : Spelling '\n' ['\\', 'n']
  | carriageReturn : Spelling '\r' ['\\', 'r']
  | tab : Spelling '\t' ['\\', 't']

inductive Spelled : List Char → List Char → Prop
  | nil : Spelled [] []
  | cons {c : Char} {piece raw text : List Char} (own : Spelling c piece) (later : Spelled raw text) :
      Spelled (piece ++ raw) (c :: text)

inductive Stops : List Char → Fault → Prop
  | trailing : Stops ['\\'] .trailingBackslash
  | unknown {letter : Char} (rest : List Char) (other : letter ∉ ['\\', 'n', 'r', 't']) :
      Stops ('\\' :: letter :: rest) (.unknownEscape letter)

def Scanned (raw : List Char) : Prop :=
  ∃ front back text, raw = front ++ back ∧ Spelled front text ∧ (back = [] ∨ ∃ fault, Stops back fault)

def Inline (raw : List Char) : Prop :=
  ∀ c ∈ raw, c ≠ '\n' ∧ c ≠ '\r' ∧ c ≠ '\t'

instance (raw : List Char) : Decidable (Inline raw) :=
  List.decidableBAll _ raw

theorem escapeLetter_eq_none_iff (c : Char) :
    escapeLetter c = none ↔ c ≠ '\\' ∧ c ≠ '\n' ∧ c ≠ '\r' ∧ c ≠ '\t' := by
  unfold escapeLetter
  split <;> simp_all

theorem unescapeLetter_eq_none_iff (letter : Char) :
    unescapeLetter letter = none ↔ letter ∉ ['\\', 'n', 'r', 't'] := by
  unfold unescapeLetter
  split <;> simp_all

theorem spelling_of_unescapeLetter {c letter : Char} (unescaped : unescapeLetter letter = some c) :
    Spelling c ['\\', letter] := by
  unfold unescapeLetter at unescaped
  split at unescaped <;> cases unescaped
  · exact .backslash
  · exact .lineFeed
  · exact .carriageReturn
  · exact .tab

theorem Spelling.unescape_append {c : Char} {piece : List Char} (own : Spelling c piece) (rest : List Char) :
    unescape (piece ++ rest) = (unescape rest).map (c :: ·) := by
  cases own with
  | plain apart => simp [unescape, apart]
  | backslash | lineFeed | carriageReturn | tab => rfl

theorem Spelled.unescape_append {raw text : List Char} (spelled : Spelled raw text) (rest : List Char) :
    unescape (raw ++ rest) = (unescape rest).map (text ++ ·) := by
  induction spelled with
  | nil =>
    rw [List.nil_append]
    cases unescape rest <;> rfl
  | cons own _ ih =>
    rw [List.append_assoc, own.unescape_append, ih]
    cases unescape rest <;> rfl

theorem Spelled.unescape_eq {raw text : List Char} (spelled : Spelled raw text) : unescape raw = .ok text := by
  have whole := spelled.unescape_append []
  rwa [List.append_nil, unescape, Except.map, List.append_nil] at whole

theorem Stops.unescape_eq {back : List Char} {fault : Fault} (stops : Stops back fault) :
    unescape back = .error fault := by
  cases stops with
  | trailing => rfl
  | unknown rest other => simp [unescape, (unescapeLetter_eq_none_iff _).2 other]

theorem Scanned.cons {c : Char} {piece rest : List Char} (own : Spelling c piece) (scanned : Scanned rest) :
    Scanned (piece ++ rest) := by
  obtain ⟨front, back, text, rfl, spelled, ends⟩ := scanned
  exact ⟨piece ++ front, back, c :: text, (List.append_assoc _ _ _).symm, .cons own spelled, ends⟩

theorem spelled_or_stops (raw : List Char) : Scanned raw := by
  fun_induction unescape raw with
  | case1 => exact ⟨[], [], [], rfl, .nil, .inl rfl⟩
  | case2 => exact ⟨[], _, [], rfl, .nil, .inr ⟨_, .trailing⟩⟩
  | case3 letter rest c unescaped ih => exact ih.cons (spelling_of_unescapeLetter unescaped)
  | case4 letter rest unknown =>
    exact ⟨[], _, [], rfl, .nil, .inr ⟨_, .unknown rest ((unescapeLetter_eq_none_iff letter).1 unknown)⟩⟩
  | case5 c rest lone pair ih =>
    -- A backslash would have been in one of the cases before.
    have apart : c ≠ '\\' := by
      rintro rfl
      cases rest with
      | nil => exact lone rfl rfl
      | cons letter rest => exact pair letter rest rfl rfl
    exact ih.cons (.plain apart)

theorem unescape_eq_ok_iff {raw text : List Char} : unescape raw = .ok text ↔ Spelled raw text := by
  constructor
  · intro read
    obtain ⟨front, back, own, rfl, spelled, rfl | ⟨fault, stops⟩⟩ := spelled_or_stops raw
    · rw [List.append_nil, spelled.unescape_eq] at read
      cases read
      rwa [List.append_nil]
    · rw [spelled.unescape_append, stops.unescape_eq] at read
      cases read
  · exact Spelled.unescape_eq

theorem Spelled.of_append {front back text whole : List Char} (spelled : Spelled front text)
    (longer : Spelled (front ++ back) whole) : ∃ rest, Spelled back rest := by
  have read := longer.unescape_eq
  rw [spelled.unescape_append, map_eq_ok_iff] at read
  obtain ⟨rest, behind, -⟩ := read
  exact ⟨rest, unescape_eq_ok_iff.1 behind⟩

theorem Stops.begins {back : List Char} {fault : Fault} (stops : Stops back fault) :
    ∃ rest, back = '\\' :: rest ∧ ∀ letter ∈ rest.head?, letter ∉ ['\\', 'n', 'r', 't'] := by
  cases stops with
  | trailing => exact ⟨[], rfl, by simp⟩
  | @unknown letter rest other => exact ⟨letter :: rest, rfl, by simpa using other⟩

theorem Spelling.not_stops {c : Char} {piece : List Char} (own : Spelling c piece) (rest : List Char) (fault : Fault) :
    ¬ Stops (piece ++ rest) fault := by
  intro stops
  obtain ⟨after, same, other⟩ := stops.begins
  cases own with
  | plain apart => exact apart (List.cons.inj same).1
  | backslash | lineFeed | carriageReturn | tab =>
    obtain ⟨-, rfl⟩ := List.cons.inj same
    simp at other

theorem Spelled.eq_nil_of_stops {front back text : List Char} {fault : Fault} (spelled : Spelled front text)
    (stops : Stops (front ++ back) fault) : front = [] := by
  cases spelled with
  | nil => rfl
  | cons own later =>
    rw [List.append_assoc] at stops
    exact absurd stops (own.not_stops _ _)

theorem Spelled.front_unique {front back text other more words : List Char} {fault cause : Fault}
    (spelled : Spelled front text) (stops : Stops back fault) (spells : Spelled other words) (ends : Stops more cause)
    (same : front ++ back = other ++ more) : front = other := by
  -- What one of the fronts has more than the other is spelled, and reading stops there.
  rcases List.append_eq_append_iff.1 same with ⟨between, rfl, rfl⟩ | ⟨between, rfl, rfl⟩
  · obtain ⟨rest, gap⟩ := spelled.of_append spells
    rw [gap.eq_nil_of_stops stops, List.append_nil]
  · obtain ⟨rest, gap⟩ := spells.of_append spelled
    rw [gap.eq_nil_of_stops ends, List.append_nil]

theorem unescape_eq_error_iff {raw : List Char} {fault : Fault} :
    unescape raw = .error fault ↔
      ∃! front, ∃ back text, raw = front ++ back ∧ Spelled front text ∧ Stops back fault := by
  constructor
  · intro failed
    obtain ⟨front, back, text, rfl, spelled, rfl | ⟨cause, stops⟩⟩ := spelled_or_stops raw
    · rw [List.append_nil, spelled.unescape_eq] at failed
      cases failed
    · rw [spelled.unescape_append, stops.unescape_eq] at failed
      cases failed
      refine ⟨front, ⟨back, text, rfl, spelled, stops⟩, ?_⟩
      rintro other ⟨more, words, same, spells, ends⟩
      exact (spelled.front_unique stops spells ends same).symm
  · rintro ⟨front, ⟨back, text, rfl, spelled, stops⟩, -⟩
    rw [spelled.unescape_append, stops.unescape_eq]
    rfl

theorem escapeLetter_range {c letter : Char} (escaped : escapeLetter c = some letter) :
    letter ∈ ['\\', 'n', 'r', 't'] := by
  unfold escapeLetter at escaped
  split at escaped <;> cases escaped <;> decide

theorem escape_cons (c : Char) (rest : List Char) :
    escape (c :: rest) = ((escapeLetter c).elim [c] fun letter => ['\\', letter]) ++ escape rest := by
  cases letter : escapeLetter c <;> simp [escape, letter]

theorem inline_escape (text : List Char) : Inline (escape text) := by
  induction text with
  | nil => simp [escape, Inline]
  | cons c rest ih =>
    have own : Inline ((escapeLetter c).elim [c] fun letter => ['\\', letter]) := by
      cases escaped : escapeLetter c with
      | none => simpa [Inline] using ((escapeLetter_eq_none_iff c).1 escaped).2
      | some letter =>
        have range := escapeLetter_range escaped
        simp only [List.mem_cons, List.not_mem_nil, or_false] at range
        rcases range with rfl | rfl | rfl | rfl <;> simp [Inline]
    rw [escape_cons]
    exact List.forall_mem_append.2 ⟨own, ih⟩

-- A backslash is only read from an escape of one, so a text in its line was escaped wherever it had to be.
theorem Spelled.escape_eq {raw text : List Char} (spelled : Spelled raw text) (inline : Inline raw) :
    escape text = raw := by
  induction spelled with
  | nil => rfl
  | cons own _ ih =>
    obtain ⟨first, later⟩ := List.forall_mem_append.1 inline
    rw [escape_cons, ih later]
    cases own with
    | plain apart =>
      have bare := (escapeLetter_eq_none_iff _).2 ⟨apart, first _ (List.mem_singleton_self _)⟩
      rw [bare]
      rfl
    | backslash | lineFeed | carriageReturn | tab => rfl

theorem Spelled.eq_of_plain {raw text : List Char} (spelled : Spelled raw text)
    (plain : ∀ c ∈ text, escapeLetter c = none) : raw = text := by
  induction spelled with
  | nil => rfl
  | cons own _ ih =>
    obtain ⟨first, later⟩ := List.forall_mem_cons.1 plain
    rw [ih later]
    cases own with
    | plain => rfl
    | backslash | lineFeed | carriageReturn | tab => cases first

/-- A text is read from what spells it, character by character, and from nothing else. Otherwise the fault is that of the
one backslash which follows what spells a text and begins no escape. An escaped text is read back, and it is the one way
to write its text without line feeds, carriage returns and tabs. -/
theorem escape_language :
    (∀ raw text : List Char, unescape raw = .ok text ↔ Spelled raw text) ∧
    (∀ (raw : List Char) (fault : Fault), unescape raw = .error fault ↔
      ∃! front, ∃ back text, raw = front ++ back ∧ Spelled front text ∧ Stops back fault) ∧
    (∀ text : List Char, unescape (escape text) = .ok text ∧ Inline (escape text)) ∧
    ∀ raw text : List Char, unescape raw = .ok text → (escape text = raw ↔ Inline raw) := by
  refine ⟨fun _ _ => unescape_eq_ok_iff, fun _ _ => unescape_eq_error_iff,
    fun text => ⟨unescape_escape text, inline_escape text⟩, fun raw text read => ⟨?_, ?_⟩⟩
  · rintro rfl
    exact inline_escape text
  · exact (unescape_eq_ok_iff.1 read).escape_eq

theorem escape_language_tab :
    let raw := "\\t\t\\\\n".toList
    unescape raw = .ok "\t\t\\n".toList ∧ escape "\t\t\\n".toList ≠ raw := by
  intro raw
  have read : unescape raw = .ok "\t\t\\n".toList := by decide
  have tab : ¬ Inline raw := by decide
  exact ⟨read, mt (escape_language.2.2.2 raw _ read).1 tab⟩

end TokenForest.Dump
