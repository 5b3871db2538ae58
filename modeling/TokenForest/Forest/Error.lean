import TokenForest.Diagnostic.Basic
import TokenForest.Forest.Delimiter

set_option autoImplicit false

namespace TokenForest

inductive StructureError
  -- The closer does not match the innermost open unit, which `expected` would close.
  | mismatched (opener closer : Token) (expected : Delimiter)
  -- The stream ended with `unclosed` units open, the innermost of them opened by `opener`.
  | unterminated (opener : Token) (delimiter : Delimiter) (unclosed : Nat)
  | unopened (closer : Token) (delimiter : Delimiter)
deriving DecidableEq

namespace StructureError

def code : StructureError → ErrorCode
  | .mismatched .. => .mismatchedDelimiter
  | .unterminated .. => .unterminatedStructure
  | .unopened .. => .unopenedDelimiter

def token : StructureError → Token
  | .mismatched _ closer _ => closer
  | .unterminated opener _ _ => opener
  | .unopened closer _ => closer

def message : StructureError → String
  | .mismatched opener closer expected =>
      "mismatched `" ++ closer.text ++ "` at " ++ closer.position.render ++ ": expected `"
        ++ expected.closeText ++ "` to close the `" ++ opener.text ++ "` from " ++ opener.position.render
  | .unterminated opener _ unclosed =>
      "unterminated `" ++ opener.text ++ "` opened at " ++ opener.position.render ++ " ("
        ++ toString unclosed ++ " open at end of stream)"
  | .unopened closer _ => "unopened `" ++ closer.text ++ "` at " ++ closer.position.render

def diagnostic (error : StructureError) : Diagnostic :=
  let plain := Diagnostic.error error.code error.message
  match error with
  | .mismatched opener closer expected =>
      (plain.withLabel closer.position ("expected `" ++ expected.closeText ++ "` here"))
        |>.withSecondary opener.position ("the " ++ expected.name ++ " was opened here")
        |>.withSuggestion ("replace `" ++ closer.text ++ "` with `" ++ expected.closeText ++ "`")
  | .unterminated opener delimiter unclosed =>
      let labelled := (plain.withLabel opener.position ("this " ++ delimiter.name ++ " is never closed"))
        |>.withSuggestion ("add `" ++ delimiter.closeText ++ "` to close the " ++ delimiter.name)
      if unclosed > 1 then
        labelled.withNote (toString unclosed ++ " units are open at the end of the stream")
      else labelled
  | .unopened closer delimiter =>
      (plain.withLabel closer.position "no open unit to close")
        |>.withSuggestion
          ("remove `" ++ closer.text ++ "` or add a matching `" ++ delimiter.openText ++ "` before it")

end StructureError

end TokenForest
