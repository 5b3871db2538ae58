set_option autoImplicit false

namespace TokenForest.Dump

inductive Fault
  | missingTab
  | unknownEscape (letter : Char)
  | trailingBackslash
deriving DecidableEq

def escapeLetter : Char → Option Char
  | '\\' => some '\\'
  | '\n' => some 'n'
  | '\r' => some 'r'
  | '\t' => some 't'
  | _ => none

def escape : List Char → List Char
  | [] => []
  | c :: rest =>
    match escapeLetter c with
    | some letter => '\\' :: letter :: escape rest
    | none => c :: escape rest

def unescapeLetter : Char → Option Char
  | '\\' => some '\\'
  | 'n' => some '\n'
  | 'r' => some '\r'
  | 't' => some '\t'
  | _ => none

def unescape : List Char → Except Fault (List Char)
  | [] => .ok []
  | '\\' :: [] => .error .trailingBackslash
  | '\\' :: letter :: rest =>
    match unescapeLetter letter with
    | some c => (unescape rest).map (c :: ·)
    | none => .error (.unknownEscape letter)
  | c :: rest => (unescape rest).map (c :: ·)

theorem unescapeLetter_of_escapeLetter {c letter : Char} (h : escapeLetter c = some letter) :
    unescapeLetter letter = some c := by
  unfold escapeLetter at h
  split at h <;> cases h <;> rfl

theorem ne_backslash_of_escapeLetter {c : Char} (h : escapeLetter c = none) : c ≠ '\\' := by
  rintro rfl
  cases h

theorem unescape_escape (text : List Char) : unescape (escape text) = .ok text := by
  induction text with
  | nil => rfl
  | cons c rest ih =>
    cases h : escapeLetter c with
    | some letter =>
      simp [escape, h, unescape, unescapeLetter_of_escapeLetter h, ih, Except.map]
    | none =>
      simp [escape, h, unescape, ne_backslash_of_escapeLetter h, ih, Except.map]

end TokenForest.Dump
