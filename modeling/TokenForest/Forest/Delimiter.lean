import TokenForest.Token

set_option autoImplicit false

namespace TokenForest

inductive UnitKind
  | line | collection | block
deriving DecidableEq

namespace UnitKind

def all : List UnitKind := [.line, .collection, .block]

def name : UnitKind → String
  | .line => "Line"
  | .collection => "Collection"
  | .block => "Block"

-- Delimited units add a level of nesting, lines do not.
def isDelimited : UnitKind → Bool
  | .line => false
  | .collection | .block => true

end UnitKind

inductive Delimiter
  | paren | brace
deriving DecidableEq

namespace Delimiter

def all : List Delimiter := [.paren, .brace]

def unitKind : Delimiter → UnitKind
  | .paren => .collection
  | .brace => .block

def openShape : Delimiter → Shape
  | .paren => .openParen
  | .brace => .openBrace

def closeShape : Delimiter → Shape
  | .paren => .closeParen
  | .brace => .closeBrace

def openText (delimiter : Delimiter) : String :=
  delimiter.openShape.text

def closeText (delimiter : Delimiter) : String :=
  delimiter.closeShape.text

def name : Delimiter → String
  | .paren => "parenthesis"
  | .brace => "brace"

end Delimiter

inductive Role
  | opener (delimiter : Delimiter)
  | closer (delimiter : Delimiter)
  | separator
  | plain
deriving DecidableEq

def Token.role (token : Token) : Role :=
  match token.shape? with
  | some .openParen => .opener .paren
  | some .openBrace => .opener .brace
  | some .closeParen => .closer .paren
  | some .closeBrace => .closer .brace
  | some .semicolon => .separator
  | _ => .plain

theorem Token.role_eq_opener_iff (token : Token) (delimiter : Delimiter) :
    token.role = .opener delimiter ↔
      token.kind.flavour = .punctuation ∧ token.text = delimiter.openText := by
  have shaped : token.role = .opener delimiter ↔ token.shape? = some delimiter.openShape := by
    unfold Token.role
    split <;> cases delimiter <;> simp_all [Delimiter.openShape]
  rw [shaped, shape?, Shape.of?_eq_some_iff, and_comm, eq_comm, eq_comm (a := Shape.text _)]
  cases delimiter <;> rfl

theorem Token.role_eq_closer_iff (token : Token) (delimiter : Delimiter) :
    token.role = .closer delimiter ↔
      token.kind.flavour = .punctuation ∧ token.text = delimiter.closeText := by
  have shaped : token.role = .closer delimiter ↔ token.shape? = some delimiter.closeShape := by
    unfold Token.role
    split <;> cases delimiter <;> simp_all [Delimiter.closeShape]
  rw [shaped, shape?, Shape.of?_eq_some_iff, and_comm, eq_comm, eq_comm (a := Shape.text _)]
  cases delimiter <;> rfl

theorem Token.flavour_of_role_ne_plain {token : Token} (h : token.role ≠ .plain) :
    token.kind.flavour = .punctuation := by
  have shaped (shape : Shape) (some : token.shape? = some shape)
      (punctuation : shape.kind.flavour = .punctuation) : token.kind.flavour = .punctuation := by
    rw [← punctuation, ((Shape.of?_eq_some_iff _ _ _).1 some).2]
  unfold Token.role at h
  split at h
  case h_6 => exact absurd rfl h
  all_goals exact shaped _ (by assumption) rfl

theorem Token.isTrivia_of_role_ne_plain {token : Token} (h : token.role ≠ .plain) :
    token.isTrivia = false := by
  have punctuation := flavour_of_role_ne_plain h
  cases trivia : token.isTrivia with
  | false => rfl
  | true => rcases (Kind.isTrivia_iff _).1 trivia with text | comment <;> simp_all

theorem Token.role_of_isTrivia {token : Token} (trivia : token.isTrivia = true) :
    token.role = .plain := by
  by_cases plain : token.role = .plain
  · exact plain
  · simp [isTrivia_of_role_ne_plain plain] at trivia

end TokenForest
