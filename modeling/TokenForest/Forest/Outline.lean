import TokenForest.Forest.Tree

set_option autoImplicit false

namespace TokenForest

def indentation (level : Nat) : String :=
  String.ofList (List.replicate (2 * level) ' ')

def Token.outline (token : Token) (level : Nat) : String :=
  indentation level ++ token.kind.dotted ++ " " ++ Text.quote token.text ++ " @" ++ token.position.render
    ++ "\n"

mutual

def Tree.outline : Tree → Nat → String
  | .leaf token, level => token.outline level
  | .unit kind children, level =>
      indentation level ++ kind.name ++ "\n" ++ Forest.outlineAt children (level + 1)

def Forest.outlineAt : List Tree → Nat → String
  | [], _ => ""
  | tree :: rest, level => tree.outline level ++ Forest.outlineAt rest level

end

def Forest.outline (forest : Forest) : String :=
  Forest.outlineAt forest 0

end TokenForest
