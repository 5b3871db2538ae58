import TokenForest.Position
import TokenForest.Shape
import TokenForest.Text.Quoted

set_option autoImplicit false

namespace TokenForest

structure RawToken where
  path : String
  text : String
deriving DecidableEq

structure Token where
  kind : Kind
  text : String
  position : Position
deriving DecidableEq

namespace Token

def isTrivia (token : Token) : Bool :=
  token.kind.isTrivia

def shape? (token : Token) : Option Shape :=
  Shape.of? token.kind token.text

def render (token : Token) : String :=
  Text.quote token.text ++ "@" ++ token.position.render

example : (⟨.name .unflavoured, "a", ⟨1, 2⟩⟩ : Token).render = "\"a\"@L1:2" := by decide +kernel

end Token

end TokenForest
