import TokenForest.Diagnostic.Code
import TokenForest.Position

set_option autoImplicit false

namespace TokenForest

inductive Severity
  | error
  | warning
deriving DecidableEq

def Severity.text : Severity → String
  | .error => "error"
  | .warning => "warning"

structure Label where
  position : Position
  message : String
  isPrimary : Bool
deriving DecidableEq

def Label.marker (label : Label) : String :=
  if label.isPrimary then "-->" else "   "

structure Diagnostic where
  code : ErrorCode
  severity : Severity
  message : String
  file : Option String
  labels : List Label
  notes : List String
  suggestions : List String
deriving DecidableEq

namespace Diagnostic

def error (code : ErrorCode) (message : String) : Diagnostic :=
  ⟨code, .error, message, none, [], [], []⟩

def recovered (diagnostic : Diagnostic) : Diagnostic :=
  if diagnostic.code.isRecoverable then { diagnostic with severity := .warning } else diagnostic

@[simp] theorem file_recovered (diagnostic : Diagnostic) : diagnostic.recovered.file = diagnostic.file := by
  unfold recovered
  split <;> rfl

@[simp] theorem labels_recovered (diagnostic : Diagnostic) : diagnostic.recovered.labels = diagnostic.labels := by
  unfold recovered
  split <;> rfl

def withMessage (diagnostic : Diagnostic) (message : String) : Diagnostic :=
  { diagnostic with message }

def inFile (diagnostic : Diagnostic) (file : String) : Diagnostic :=
  { diagnostic with file := some file }

def withLabel (diagnostic : Diagnostic) (position : Position) (message : String) : Diagnostic :=
  { diagnostic with labels := diagnostic.labels ++ [⟨position, message, true⟩] }

def withSecondary (diagnostic : Diagnostic) (position : Position) (message : String) : Diagnostic :=
  { diagnostic with labels := diagnostic.labels ++ [⟨position, message, false⟩] }

def withNote (diagnostic : Diagnostic) (note : String) : Diagnostic :=
  { diagnostic with notes := diagnostic.notes ++ [note] }

def withSuggestion (diagnostic : Diagnostic) (suggestion : String) : Diagnostic :=
  { diagnostic with suggestions := diagnostic.suggestions ++ [suggestion] }

def primaryPosition (diagnostic : Diagnostic) : Option Position :=
  (diagnostic.labels.find? Label.isPrimary).map Label.position

def isError (diagnostic : Diagnostic) : Bool :=
  diagnostic.severity == .error

def renderLabel (label : Label) : String :=
  "\n  " ++ label.marker ++ " " ++ label.position.render ++ ": " ++ label.message

def render (diagnostic : Diagnostic) : String :=
  diagnostic.severity.text ++ " [" ++ diagnostic.code.text ++ "]: " ++ diagnostic.message
    ++ String.join (diagnostic.labels.map renderLabel)
    ++ String.join (diagnostic.notes.map ("\n  = note: " ++ ·))
    ++ String.join (diagnostic.suggestions.map ("\n  = help: " ++ ·))

end Diagnostic

end TokenForest
