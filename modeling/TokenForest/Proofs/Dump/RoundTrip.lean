import Mathlib.Data.List.Basic
import TokenForest.Proofs.Dump.Escapes

set_option autoImplicit false

namespace TokenForest

open Text (isBlank)

/-- What a dump can hold. White space but for line feeds, carriage returns and tabs is written as it stands, and a line
of nothing but white space is skipped. -/
structure RawToken.Writable (token : RawToken) : Prop where
  noTab : '\t' ∉ token.path.toList
  noNewline : '\n' ∉ token.path.toList
  noComment : token.path.toList.head? ≠ some '#'
  noBlank : ¬ ((∀ c ∈ token.path.toList, isBlank c = true) ∧
    ∀ c ∈ token.text.toList, isBlank c = true ∧ c ≠ '\n' ∧ c ≠ '\r' ∧ c ≠ '\t')

instance (token : RawToken) : Decidable token.Writable :=
  -- Of all characters, only those of the text are looked at.
  haveI (test : Char → Prop) [DecidablePred test] (text : List Char) : Decidable (∀ c ∈ text, test c) :=
    List.decidableBAll _ text
  decidable_of_iff (_ ∧ _ ∧ _ ∧ _)
    ⟨fun ⟨noTab, noNewline, noComment, noBlank⟩ => ⟨noTab, noNewline, noComment, noBlank⟩,
      fun ⟨noTab, noNewline, noComment, noBlank⟩ => ⟨noTab, noNewline, noComment, noBlank⟩⟩

namespace Dump

theorem escapeLetter_of_blank {c : Char} (blank : isBlank c = true) :
    escapeLetter c = none ↔ c ≠ '\n' ∧ c ≠ '\r' ∧ c ≠ '\t' := by
  have seen : isBlank '\\' = false := by decide
  have apart : c ≠ '\\' := by
    rintro rfl
    simp [seen] at blank
  simp [escapeLetter_eq_none_iff, apart]

-- An escape begins with a backslash, which is not blank.
theorem blank_escape_iff (text : List Char) :
    (∀ c ∈ escape text, isBlank c = true) ↔
      ∀ c ∈ text, isBlank c = true ∧ c ≠ '\n' ∧ c ≠ '\r' ∧ c ≠ '\t' := by
  have seen : isBlank '\\' = false := by decide
  induction text with
  | nil => simp [escape]
  | cons c rest ih =>
    have own : (∀ d ∈ (escapeLetter c).elim [c] fun letter => ['\\', letter], isBlank d = true) ↔
        isBlank c = true ∧ c ≠ '\n' ∧ c ≠ '\r' ∧ c ≠ '\t' := by
      rw [← and_congr_right_iff.2 escapeLetter_of_blank]
      cases escapeLetter c <;> simp [seen]
    rw [escape_cons, List.forall_mem_append, List.forall_mem_cons]
    exact and_congr own ih

theorem isSkipped_iff (path text : List Char) :
    isSkipped (path ++ '\t' :: text) = true ↔
      path.head? = some '#' ∨ (∀ c ∈ path, isBlank c = true) ∧ ∀ c ∈ text, isBlank c = true := by
  have tab : isBlank '\t' = true := by decide
  cases path <;> simp [isSkipped, tab, or_comm, and_assoc]

def lineOf (token : RawToken) : List Char :=
  token.path.toList ++ '\t' :: escape token.text.toList

theorem toList_write (tokens : List RawToken) :
    (write tokens).toList = (tokens.map lineOf).flatMap (· ++ ['\n']) := by
  simp [write, writeToken, lineOf, escapeText, String.toList_join, List.flatMap_map]

theorem newline_not_mem_lineOf {token : RawToken} (noNewline : '\n' ∉ token.path.toList) : '\n' ∉ lineOf token := by
  have text : '\n' ∉ escape token.text.toList := fun inside => (inline_escape _ _ inside).1 rfl
  simp [lineOf, noNewline, text]

theorem getLast?_lineOf (token : RawToken) : (lineOf token).getLast? ≠ some '\r' := by
  intro last
  rw [lineOf, List.getLast?_append_cons] at last
  rcases List.mem_cons.1 (List.mem_of_getLast? last) with tab | inside
  · exact absurd tab (by decide)
  · exact (inline_escape _ _ inside).2.1 rfl

theorem lines_write {tokens : List RawToken} (noNewline : ∀ token ∈ tokens, '\n' ∉ token.path.toList) :
    Text.lines (write tokens).toList = tokens.map lineOf := by
  rw [toList_write]
  refine Text.lines_flatMap fun line inside => ?_
  obtain ⟨token, member, rfl⟩ := List.mem_map.1 inside
  exact ⟨newline_not_mem_lineOf (noNewline token member), getLast?_lineOf token⟩

theorem readLines_lineOf {tokens : List RawToken} (writable : ∀ token ∈ tokens, token.Writable) (number : Nat) :
    readLines number (tokens.map lineOf) = tokens.map .ok := by
  induction tokens generalizing number with
  | nil => rfl
  | cons token rest ih =>
    obtain ⟨own, later⟩ := List.forall_mem_cons.1 writable
    have kept : isSkipped (lineOf token) = false := by
      rw [← Bool.not_eq_true, lineOf, isSkipped_iff, blank_escape_iff]
      exact not_or.2 ⟨own.noComment, own.noBlank⟩
    have decoded : decodeLine (lineOf token) = .ok token :=
      decodeLine_eq_ok_iff.2 ⟨_, rfl, own.noTab, unescape_escape _⟩
    simp [readLines, kept, decoded, Except.mapError, ih later]

theorem read_write {tokens : List RawToken} (writable : ∀ token ∈ tokens, token.Writable) :
    read (write tokens) = tokens.map .ok := by
  rw [read, lines_write fun token inside => (writable token inside).noNewline, readLines_lineOf writable]

theorem writable_of_decodeLine {line : List Char} {token : RawToken} (noNewline : '\n' ∉ line)
    (kept : isSkipped line = false) (decoded : decodeLine line = .ok token) : token.Writable := by
  obtain ⟨raw, rfl, noTab, unescaped⟩ := decodeLine_eq_ok_iff.1 decoded
  rw [← Bool.not_eq_true, isSkipped_iff, not_or] at kept
  refine ⟨noTab, fun newline => noNewline (by simp [newline]), kept.1, ?_⟩
  rintro ⟨path, text⟩
  -- A blank text has no escapes in it, so it was blank as it stood in the line.
  have plain : ∀ c ∈ token.text.toList, escapeLetter c = none := fun c inside =>
    (escapeLetter_of_blank (text c inside).1).2 (text c inside).2
  have same : raw = token.text.toList := (unescape_eq_ok_iff.1 unescaped).eq_of_plain plain
  exact kept.2 ⟨path, fun c inside => (text c (same ▸ inside)).1⟩

theorem writable_of_parse {text : String} {tokens : List RawToken} (parsed : parse text = .ok tokens) :
    ∀ token ∈ tokens, token.Writable := by
  intro token inside
  have said : .ok token ∈ read text := by
    rw [parse_eq_ok_iff.1 parsed]
    exact List.mem_map_of_mem inside
  obtain ⟨line, member, kept, decoded⟩ := mem_readLines said
  exact writable_of_decodeLine (Text.newline_not_mem_lines member) kept decoded

theorem parse_write {tokens : List RawToken} (writable : ∀ token ∈ tokens, token.Writable) :
    parse (write tokens) = .ok tokens :=
  parse_eq_ok_iff.2 (read_write writable)

/-- Tokens that are written read back if and only if each of them is writable, and the tokens of every dump are. -/
theorem roundTrip :
    (∀ tokens : List RawToken, parse (write tokens) = .ok tokens ↔ ∀ token ∈ tokens, token.Writable) ∧
      ∀ (text : String) (tokens : List RawToken), parse text = .ok tokens →
        (∀ token ∈ tokens, token.Writable) ∧ parse (write tokens) = .ok tokens := by
  refine ⟨fun tokens => ⟨writable_of_parse, parse_write⟩, fun text tokens parsed => ?_⟩
  have writable := writable_of_parse parsed
  exact ⟨writable, parse_write writable⟩

example : parse (write [⟨"", "\n"⟩, ⟨"", " "⟩]) = .ok [⟨"", "\n"⟩] ∧ ¬ RawToken.Writable ⟨"", " "⟩ :=
  ⟨rfl, by decide⟩

end Dump

end TokenForest
