import TokenForest.Diagnostic.Basic
import TokenForest.Kind
import TokenForest.Taxonomy.Path

set_option autoImplicit false

namespace TokenForest.Taxonomy

inductive Defect
  | missingRoot
  | emptySegment
  | duplicate
  | leafBranchConflict
  | missingFallback
  | fallbackNotTerminal
deriving DecidableEq

structure Error where
  defect : Defect
  path : String
deriving DecidableEq

def Error.message (error : Error) : String :=
  match error.defect with
  | .missingRoot => "taxonomy entry `" ++ error.path ++ "` does not start with `" ++ Kind.root ++ "`"
  | .emptySegment => "taxonomy entry `" ++ error.path ++ "` has an empty segment"
  | .duplicate => "taxonomy entry `" ++ error.path ++ "` is defined twice"
  | .leafBranchConflict =>
      "taxonomy entry `" ++ error.path ++ "` is both a terminal kind and a branch"
  | .missingFallback =>
      "taxonomy branch `" ++ error.path ++ "` has no `" ++ fallbackKey ++ "` fallback"
  | .fallbackNotTerminal =>
      "taxonomy entry `" ++ error.path ++ "` continues past the `" ++ fallbackKey ++ "` fallback key"

def Error.diagnostic (error : Error) : Diagnostic :=
  (Diagnostic.error .invalidTaxonomy error.message).withNote
    "the taxonomy is validated once, before any token is classified"

inductive ResolveError
  | malformed (path : String)
  /-- The segment is the first one without an entry, or absent when the path ends on a branch. -/
  | unresolved (path : String) (segment : Option String)
deriving DecidableEq

namespace ResolveError

def path : ResolveError → String
  | .malformed path | .unresolved path _ => path

def segment? : ResolveError → Option String
  | .malformed _ => none
  | .unresolved _ segment => segment

def isUnresolved : ResolveError → Bool
  | .malformed _ => false
  | .unresolved _ _ => true

def code : ResolveError → ErrorCode
  | .malformed _ => .malformedPath
  | .unresolved _ _ => .unresolvedPath

def message : ResolveError → String
  | .malformed path => "malformed type path `" ++ path ++ "`"
  | .unresolved path _ => "no taxonomy entry for `" ++ path ++ "`"

def explain (error : ResolveError) (diagnostic : Diagnostic) : Diagnostic :=
  match error with
  | .malformed _ =>
      diagnostic.withNote ("type paths are dotted segments starting with `" ++ Kind.root ++ "`")
  | .unresolved _ (some segment) =>
      (diagnostic.withNote ("`" ++ segment ++ "` is not a known segment and its parent has no fallback"))
        |>.withSuggestion "add an entry or a fallback for this path to the taxonomy"
  | .unresolved _ none =>
      (diagnostic.withNote "the path stops at a branch without a fallback")
        |>.withSuggestion "add a fallback for this branch to the taxonomy"

end ResolveError

end TokenForest.Taxonomy
