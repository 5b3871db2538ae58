import TokenForest.Forest.Delimiter
import TokenForest.TokenList

set_option autoImplicit false

namespace TokenForest

inductive Tree
  | leaf (token : Token)
  | unit (kind : UnitKind) (children : List Tree)

abbrev Forest := List Tree

mutual

def Tree.tokens : Tree → TokenList
  | .leaf token => [token]
  | .unit _ children => Forest.tokens children

def Forest.tokens : List Tree → TokenList
  | [] => []
  | tree :: rest => tree.tokens ++ Forest.tokens rest

end

@[simp] theorem Forest.tokens_append (front back : Forest) :
    tokens (front ++ back) = tokens front ++ tokens back := by
  induction front with
  | nil => rfl
  | cons tree rest ih => simp [tokens, ih]

mutual

def Tree.depth : Tree → Nat
  | .leaf _ => 0
  | .unit kind children =>
      if kind.isDelimited then Forest.depth children + 1 else Forest.depth children

def Forest.depth : List Tree → Nat
  | [] => 0
  | tree :: rest => max tree.depth (Forest.depth rest)

end

@[simp] theorem Forest.depth_append (front back : Forest) :
    depth (front ++ back) = max (depth front) (depth back) := by
  induction front with
  | nil => simp [depth]
  | cons tree rest ih => simp [depth, ih, Nat.max_assoc]

namespace Tree

def isSignificant : Tree → Bool
  | .leaf token => !token.isTrivia
  | .unit _ _ => true

def children : Tree → Forest
  | .leaf _ => []
  | .unit _ children => children

def leafCount (tree : Tree) : Nat :=
  tree.tokens.length

def text (tree : Tree) : String :=
  TokenList.sourceText tree.tokens

end Tree

end TokenForest
