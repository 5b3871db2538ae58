import TokenForest.Diagnostic.Basic

set_option autoImplicit false

namespace TokenForest

inductive Style
  | plain | bold | error | warning | help | secondary
deriving DecidableEq

def Style.start : Style → Option String
  | .plain => none
  | .bold => some "\x1b[1m"
  | .error => some "\x1b[1;31m"
  | .warning => some "\x1b[1;33m"
  | .help => some "\x1b[1;32m"
  | .secondary => some "\x1b[1;34m"

def Style.reset : String := "\x1b[0m"

def Style.ofSeverity : Severity → Style
  | .error => .error
  | .warning => .warning

structure Span where
  style : Style
  text : String
deriving DecidableEq

namespace Span

def plain (text : String) : Span := ⟨.plain, text⟩

def render (span : Span) (colours : Bool) : String :=
  match colours, span.style.start with
  | true, some start => start ++ span.text ++ Style.reset
  | _, _ => span.text

@[simp] theorem render_false (span : Span) : span.render false = span.text := by
  simp [render]

end Span

inductive ColourMode
  | auto | always | never
deriving DecidableEq

def ColourMode.colours (mode : ColourMode) (isTerminal : Bool) : Bool :=
  match mode with
  | .auto => isTerminal
  | .always => true
  | .never => false

namespace Terminal

def labelSpans (file : String) (severity : Severity) (label : Label) : List Span :=
  let (line, column) := label.position.oneBased
  [.plain ("  " ++ label.marker ++ " " ++ file ++ ":" ++ toString line.toNat ++ ":"
      ++ toString column.toNat ++ ": "),
    ⟨if label.isPrimary then .ofSeverity severity else .secondary, label.message⟩, .plain "\n"]

def noteSpans (note : String) : List Span :=
  [.plain "  = ", ⟨.bold, "note"⟩, .plain (": " ++ note ++ "\n")]

def suggestionSpans (suggestion : String) : List Span :=
  [.plain "  = ", ⟨.help, "help"⟩, .plain (": " ++ suggestion ++ "\n")]

def diagnosticSpans (diagnostic : Diagnostic) : List Span :=
  let file := diagnostic.file.getD "<input>"
  [⟨.ofSeverity diagnostic.severity, diagnostic.severity.text⟩,
    ⟨.bold, "[" ++ diagnostic.code.text ++ "]"⟩, .plain (": " ++ diagnostic.message ++ "\n")]
    ++ diagnostic.labels.flatMap (labelSpans file diagnostic.severity)
    ++ diagnostic.notes.flatMap noteSpans
    ++ diagnostic.suggestions.flatMap suggestionSpans
    ++ [.plain "\n"]

def summarySpans (failed total : Nat) : List Span :=
  if failed = 0 then []
  else
    [⟨.error, "error"⟩,
      .plain (": " ++ toString failed ++ " of " ++ toString total ++ " file"
        ++ (if total = 1 then "" else "s") ++ " failed\n")]

inductive Call
  | emit (diagnostic : Diagnostic)
  | emitAll (diagnostics : List Diagnostic)
  | summary (failed total : Nat)
  | flush

def Call.spans : Call → List Span
  | .emit diagnostic => diagnosticSpans diagnostic
  | .emitAll diagnostics => diagnostics.flatMap diagnosticSpans
  | .summary failed total => summarySpans failed total
  | .flush => []

def renderSpans (spans : List Span) (colours : Bool) : String :=
  String.join (spans.map (·.render colours))

theorem toList_renderSpans (spans : List Span) (colours : Bool) :
    (renderSpans spans colours).toList = spans.flatMap fun span => (span.render colours).toList := by
  simp [renderSpans, List.flatMap_map]

def write (colours : Bool) (calls : List Call) : String :=
  renderSpans (calls.flatMap Call.spans) colours

def writeDiagnostic (diagnostic : Diagnostic) : String :=
  write false [.emit diagnostic]

end Terminal

end TokenForest
