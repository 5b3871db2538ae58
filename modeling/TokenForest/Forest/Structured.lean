import TokenForest.Forest.Open

set_option autoImplicit false

namespace TokenForest

namespace OpenForest

def pushAll (state : OpenForest) : List Token → Except StructureError OpenForest
  | [] => .ok state
  | token :: rest =>
    match state.push token with
    | .ok next => next.pushAll rest
    | .error error => .error error

def pushAllLenient (state : OpenForest) : List Token → OpenForest × List StructureError
  | [] => (state, [])
  | token :: rest =>
    let (next, error) := state.pushLenient token
    let (last, errors) := next.pushAllLenient rest
    (last, error.toList ++ errors)

end OpenForest

structure Structured where
  forest : Forest
  errors : List StructureError

namespace Structured

def isComplete (structured : Structured) : Bool :=
  structured.errors.isEmpty

def depth (structured : Structured) : Nat :=
  Forest.depth structured.forest

end Structured

namespace Forest

def ofTokens (keepTrivia : Bool) (tokens : TokenList) : Except StructureError Forest :=
  match (OpenForest.empty keepTrivia).pushAll tokens with
  | .ok state => state.finish
  | .error error => .error error

def recover (keepTrivia : Bool) (tokens : TokenList) : Structured :=
  let (state, errors) := (OpenForest.empty keepTrivia).pushAllLenient tokens
  let (forest, error) := state.finishLenient
  ⟨forest, errors ++ error.toList⟩

end Forest

end TokenForest
