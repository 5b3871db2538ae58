import TokenForest.Taxonomy.Basic
import TokenForest.TokenList

set_option autoImplicit false

namespace TokenForest

structure ClassifyError where
  position : Position
  cause : Taxonomy.ResolveError
deriving DecidableEq

namespace ClassifyError

def message (error : ClassifyError) : String :=
  error.cause.message ++ " at " ++ error.position.render

def diagnostic (error : ClassifyError) : Diagnostic :=
  error.cause.explain
    ((Diagnostic.error error.cause.code error.cause.message).withLabel error.position "token starts here")

end ClassifyError

structure Classification where
  taxonomy : Taxonomy
  position : Position
  tokens : TokenList

namespace Classification

def empty (taxonomy : Taxonomy) : Classification :=
  ⟨taxonomy, .start, []⟩

def add (classified : Classification) (token : Token) : Classification :=
  { classified with
    position := classified.position.advance token.text
    tokens := classified.tokens ++ [token] }

def next (classified : Classification) (raw : RawToken) : Except ClassifyError Token :=
  match classified.taxonomy.resolve raw.path with
  | .ok kind => .ok ⟨kind, raw.text, classified.position⟩
  | .error cause => .error ⟨classified.position, cause⟩

def classify (classified : Classification) (raw : RawToken) : Except ClassifyError Classification :=
  (classified.next raw).map classified.add

def classifyAll (classified : Classification) : List RawToken → Classification × Option ClassifyError
  | [] => (classified, none)
  | raw :: rest =>
    match classified.classify raw with
    | .ok extended => extended.classifyAll rest
    | .error error => (classified, some error)

end Classification

def classifyStream (taxonomy : Taxonomy) (raw : List RawToken) : Except ClassifyError TokenList :=
  match (Classification.empty taxonomy).classifyAll raw with
  | (classified, none) => .ok classified.tokens
  | (_, some error) => .error error

end TokenForest
