import TokenForest.Classification
import TokenForest.Dump.Basic

set_option autoImplicit false

namespace TokenForest

inductive ReadFault
  | notFound
  | permissionDenied
  | invalidData
  | other
deriving DecidableEq

structure ReadError where
  fault : ReadFault
  text : String
deriving DecidableEq

inductive Failure
  | unreadable (path : String) (cause : ReadError)
  | malformed (name : String) (cause : Dump.Error)
  | unclassified (name : String) (cause : ClassifyError)
  | taxonomy (cause : Taxonomy.Error)
deriving DecidableEq

namespace Failure

def message : Failure → String
  | .unreadable path cause => "cannot read `" ++ path ++ "`: " ++ cause.text
  | .malformed name cause => name ++ ": " ++ cause.message
  | .unclassified name cause => name ++ ": " ++ cause.message
  | .taxonomy cause => cause.message

def readMessage (path : String) (cause : ReadError) : String :=
  match cause.fault with
  | .notFound => "cannot find file `" ++ path ++ "`"
  | .permissionDenied => "permission denied reading `" ++ path ++ "`"
  | .invalidData => "`" ++ path ++ "` contains invalid UTF-8 data"
  | .other => "error reading `" ++ path ++ "`: " ++ cause.text

def diagnostic : Failure → Diagnostic
  | .unreadable path cause => (Diagnostic.error .unreadableInput (readMessage path cause)).inFile path
  | .malformed name cause => cause.diagnostic.inFile name
  | .unclassified name cause => cause.diagnostic.inFile name
  | .taxonomy cause => cause.diagnostic

end Failure

end TokenForest
