import TokenForest.Kind

set_option autoImplicit false

namespace TokenForest

inductive Shape
  | privateWord | publicWord | finalWord | staticWord | classWord
  | semicolon | openBrace | closeBrace | openParen | closeParen | space
deriving DecidableEq

namespace Shape

def all : List Shape :=
  [.privateWord, .publicWord, .finalWord, .staticWord, .classWord, .semicolon, .openBrace, .closeBrace,
    .openParen, .closeParen, .space]

theorem mem_all (shape : Shape) : shape ∈ all := by
  cases shape <;> decide

def kind : Shape → Kind
  | .privateWord | .publicWord | .finalWord | .staticWord | .classWord => .keyword .declaration
  | .semicolon | .openBrace | .closeBrace | .openParen | .closeParen => .punctuation .unflavoured
  | .space => .text .whitespace

def text : Shape → String
  | .privateWord => "private"
  | .publicWord => "public"
  | .finalWord => "final"
  | .staticWord => "static"
  | .classWord => "class"
  | .semicolon => ";"
  | .openBrace => "\x7b"
  | .closeBrace => "\x7d"
  | .openParen => "("
  | .closeParen => ")"
  | .space => " "

theorem text_inj {a b : Shape} (h : a.text = b.text) : a = b := by
  revert h
  cases a <;> cases b <;> decide

def name : Shape → String
  | .privateWord => "Private"
  | .publicWord => "Public"
  | .finalWord => "Final"
  | .staticWord => "Static"
  | .classWord => "Class"
  | .semicolon => "Semicolon"
  | .openBrace => "OpenBrace"
  | .closeBrace => "CloseBrace"
  | .openParen => "OpenParen"
  | .closeParen => "CloseParen"
  | .space => "Space"

def of? (kind : Kind) (text : String) : Option Shape :=
  all.find? fun shape => shape.text == text && shape.kind.flavour == kind.flavour

theorem of?_eq_some_iff (kind : Kind) (text : String) (shape : Shape) :
    of? kind text = some shape ↔ shape.text = text ∧ shape.kind.flavour = kind.flavour := by
  constructor
  · intro h
    simpa using List.find?_some h
  · rintro ⟨rfl, same⟩
    cases found : of? kind shape.text with
    | none =>
      have absent := List.find?_eq_none.1 found shape (mem_all shape)
      simp [same] at absent
    | some other =>
      have texts := List.find?_some found
      simp only [Bool.and_eq_true, beq_iff_eq] at texts
      rw [text_inj texts.1]

end Shape

end TokenForest
