import TokenForest.Token

set_option autoImplicit false

namespace TokenForest

abbrev TokenList := List Token

namespace TokenList

def sourceText (tokens : TokenList) : String :=
  String.join (tokens.map Token.text)

def lines (tokens : TokenList) : List TokenList :=
  tokens.splitBy fun a b => a.position.line == b.position.line

def significant (tokens : TokenList) : TokenList :=
  tokens.filter fun token => !token.isTrivia

def renderLine (line : TokenList) : String :=
  String.intercalate " " (line.map Token.render) ++ "\n"

def render (tokens : TokenList) : String :=
  String.join ((lines tokens).map renderLine)

end TokenList

end TokenForest
