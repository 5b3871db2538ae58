import TokenForest.CommandLine

set_option autoImplicit false

namespace TokenForest

structure Report where
  warns : Bool := false
  code : String
  message : String
  places : List Label := []
  notes : List String := []
  helps : List String := []

namespace Report

def painted (colours : Bool) (style text : String) : String :=
  if colours then "\x1b[" ++ style ++ "m" ++ text ++ "\x1b[0m" else text

-- Coordinates are shown counted from one and never exceed 32 bits.
def counted (coordinate : UInt32) : String :=
  toString (min (coordinate.toNat + 1) 4294967295)

def placeText (colours : Bool) (style file : String) (place : Label) : String :=
  (if place.isPrimary then "  --> " else "      ") ++ file ++ ":" ++ counted place.position.line ++ ":"
    ++ counted place.position.column ++ ": "
    ++ painted colours (if place.isPrimary then style else "1;34") place.message ++ "\n"

def noteText (colours : Bool) (note : String) : String :=
  "  = " ++ painted colours "1" "note" ++ ": " ++ note ++ "\n"

def helpText (colours : Bool) (help : String) : String :=
  "  = " ++ painted colours "1;32" "help" ++ ": " ++ help ++ "\n"

/-- A headline, the places in the file, the notes and what helps, each on a line of its own, and an empty line. -/
def text (colours : Bool) (file : String) (report : Report) : String :=
  let style := if report.warns then "1;33" else "1;31"
  painted colours style (if report.warns then "warning" else "error")
    ++ painted colours "1" ("[" ++ report.code ++ "]") ++ ": " ++ report.message ++ "\n"
    ++ String.join (report.places.map (placeText colours style file))
    ++ String.join (report.notes.map (noteText colours))
    ++ String.join (report.helps.map (helpText colours)) ++ "\n"

def summary (colours : Bool) (failed total : Nat) : String :=
  painted colours "1;31" "error" ++ ": " ++ toString failed ++ " of " ++ toString total
    ++ (if total = 1 then " file" else " files") ++ " failed\n"

def unreadable (path : String) (cause : ReadError) : Report where
  code := "E2002"
  message :=
    match cause.fault with
    | .notFound => "cannot find file `" ++ path ++ "`"
    | .permissionDenied => "permission denied reading `" ++ path ++ "`"
    | .invalidData => "`" ++ path ++ "` contains invalid UTF-8 data"
    | .other => "error reading `" ++ path ++ "`: " ++ cause.text

def malformed (number : Nat) (fault : Dump.Fault) : Report where
  code := "E2001"
  message :=
    match fault with
    | .missingTab => "missing tab between type path and text"
    | .unknownEscape letter => "unknown escape `\\" ++ String.singleton letter ++ "`"
    | .trailingBackslash => "text ends with a lone backslash"
  notes := ["at line " ++ toString number ++ " of the token dump"]
  helps :=
    match fault with
    | .missingTab => ["separate the type path and the text with a tab"]
    | .unknownEscape _ | .trailingBackslash => ["write a literal backslash as `\\\\`"]

def unclassified (position : Position) (cause : Taxonomy.ResolveError) : Report :=
  let places := [⟨position, "token starts here", true⟩]
  match cause with
  | .malformed path =>
      { code := "E0001", message := "malformed type path `" ++ path ++ "`", places
        notes := ["type paths are dotted segments starting with `Token`"] }
  | .unresolved path (some segment) =>
      { code := "E0002", message := "no taxonomy entry for `" ++ path ++ "`", places
        notes := ["`" ++ segment ++ "` is not a known segment and its parent has no fallback"]
        helps := ["add an entry or a fallback for this path to the taxonomy"] }
  | .unresolved path none =>
      { code := "E0002", message := "no taxonomy entry for `" ++ path ++ "`", places
        notes := ["the path stops at a branch without a fallback"]
        helps := ["add a fallback for this branch to the taxonomy"] }

def spelled (position : Position) : String :=
  "L" ++ toString position.line.toNat ++ ":" ++ toString position.column.toNat

def opening : Delimiter → String
  | .paren => "("
  | .brace => "\x7b"

def closing : Delimiter → String
  | .paren => ")"
  | .brace => "\x7d"

def named : Delimiter → String
  | .paren => "parenthesis"
  | .brace => "brace"

def misnested (warns : Bool) : StructureError → Report
  | .mismatched opener closer expected =>
      { warns, code := "E1001"
        message := "mismatched `" ++ closer.text ++ "` at " ++ spelled closer.position ++ ": expected `"
          ++ closing expected ++ "` to close the `" ++ opener.text ++ "` from " ++ spelled opener.position
        places := [⟨closer.position, "expected `" ++ closing expected ++ "` here", true⟩,
          ⟨opener.position, "the " ++ named expected ++ " was opened here", false⟩]
        helps := ["replace `" ++ closer.text ++ "` with `" ++ closing expected ++ "`"] }
  | .unterminated opener delimiter unclosed =>
      { warns, code := "E1002"
        message := "unterminated `" ++ opener.text ++ "` opened at " ++ spelled opener.position ++ " ("
          ++ toString unclosed ++ " open at end of stream)"
        places := [⟨opener.position, "this " ++ named delimiter ++ " is never closed", true⟩]
        notes :=
          if unclosed > 1 then [toString unclosed ++ " units are open at the end of the stream"] else []
        helps := ["add `" ++ closing delimiter ++ "` to close the " ++ named delimiter] }
  | .unopened closer delimiter =>
      { warns, code := "E1003"
        message := "unopened `" ++ closer.text ++ "` at " ++ spelled closer.position
        places := [⟨closer.position, "no open unit to close", true⟩]
        helps := ["remove `" ++ closer.text ++ "` or add a matching `" ++ opening delimiter ++ "` before it"] }

def ofDiagnostic (diagnostic : Diagnostic) : Report where
  warns := diagnostic.severity == .warning
  code := diagnostic.code.text
  message := diagnostic.message
  places := diagnostic.labels
  notes := diagnostic.notes
  helps := diagnostic.suggestions

theorem ofDiagnostic_unreadable (path : String) (cause : ReadError) :
    ofDiagnostic (Failure.unreadable path cause).diagnostic = unreadable path cause := by
  obtain ⟨_ | _ | _ | _, text⟩ := cause <;> rfl

theorem ofDiagnostic_malformed (name : String) (number : Nat) (fault : Dump.Fault) :
    ofDiagnostic (Failure.malformed name ⟨number, fault⟩).diagnostic = malformed number fault := by
  cases fault <;> rfl

theorem ofDiagnostic_unclassified (name : String) (position : Position) (cause : Taxonomy.ResolveError) :
    ofDiagnostic (Failure.unclassified name ⟨position, cause⟩).diagnostic = unclassified position cause := by
  obtain path | ⟨path, _ | segment⟩ := cause <;> rfl

theorem ofDiagnostic_misnested (name : String) (warns : Bool) (error : StructureError) :
    ofDiagnostic (if warns then (error.diagnostic.inFile name).recovered else error.diagnostic.inFile name) =
      misnested warns error := by
  cases error with
  | mismatched opener closer expected => cases warns <;> cases expected <;> rfl
  | unopened closer delimiter => cases warns <;> cases delimiter <;> rfl
  | unterminated opener delimiter unclosed =>
    by_cases many : unclosed > 1 <;> cases warns <;> cases delimiter <;>
      simp [StructureError.diagnostic, misnested, many] <;> rfl

end Report

namespace Terminal

open Report

theorem render_span (colours : Bool) (style : Style) (text : String) :
    (⟨style, text⟩ : Span).render colours =
      match style with
      | .plain => text
      | .bold => painted colours "1" text
      | .error => painted colours "1;31" text
      | .warning => painted colours "1;33" text
      | .help => painted colours "1;32" text
      | .secondary => painted colours "1;34" text := by
  cases style <;> cases colours <;> rfl

theorem renderSpans_append (front back : List Span) (colours : Bool) :
    renderSpans (front ++ back) colours = renderSpans front colours ++ renderSpans back colours := by
  simp [renderSpans]

theorem renderSpans_flatMap {α : Type} (items : List α) (spans : α → List Span) (colours : Bool) :
    renderSpans (items.flatMap spans) colours = String.join (items.map fun item => renderSpans (spans item) colours) := by
  induction items with
  | nil => rfl
  | cons item rest ih => simp [renderSpans_append, ih]

theorem renderSpans_label (colours : Bool) (file : String) (severity : Severity) (label : Label) :
    renderSpans (labelSpans file severity label) colours =
      placeText colours (if severity == .warning then "1;33" else "1;31") file label := by
  obtain ⟨position, message, primary⟩ := label
  cases primary <;> cases severity <;>
    simp [renderSpans, labelSpans, placeText, counted, Position.oneBased, Position.limit, UInt32.size, Label.marker,
      Span.plain, Style.ofSeverity, render_span, String.append_assoc]

theorem renderSpans_note (colours : Bool) (note : String) :
    renderSpans (noteSpans note) colours = noteText colours note := by
  simp [renderSpans, noteSpans, noteText, Span.plain, render_span, String.append_assoc]

theorem renderSpans_suggestion (colours : Bool) (suggestion : String) :
    renderSpans (suggestionSpans suggestion) colours = helpText colours suggestion := by
  simp [renderSpans, suggestionSpans, helpText, Span.plain, render_span, String.append_assoc]

theorem renderSpans_diagnostic (colours : Bool) {diagnostic : Diagnostic} {file : String}
    (own : diagnostic.file = some file) :
    renderSpans (diagnosticSpans diagnostic) colours = (ofDiagnostic diagnostic).text colours file := by
  have headline : renderSpans [⟨.ofSeverity diagnostic.severity, diagnostic.severity.text⟩,
      ⟨.bold, "[" ++ diagnostic.code.text ++ "]"⟩, .plain (": " ++ diagnostic.message ++ "\n")] colours =
      painted colours (if diagnostic.severity == .warning then "1;33" else "1;31")
          (if diagnostic.severity == .warning then "warning" else "error")
        ++ painted colours "1" ("[" ++ diagnostic.code.text ++ "]") ++ ": " ++ diagnostic.message ++ "\n" := by
    cases diagnostic.severity <;>
      simp [renderSpans, Span.plain, Style.ofSeverity, Severity.text, render_span, String.append_assoc]
  have last : renderSpans [.plain "\n"] colours = "\n" := by simp [renderSpans, Span.plain, render_span]
  rw [diagnosticSpans]
  simp only [own, Option.getD_some, renderSpans_append, renderSpans_flatMap, headline, last, renderSpans_label,
    renderSpans_note, renderSpans_suggestion]
  rfl

theorem write_append (colours : Bool) (front back : List Call) :
    write colours (front ++ back) = write colours front ++ write colours back := by
  simp [write, renderSpans_append]

theorem write_emitAll (colours : Bool) {file : String} {diagnostics : List Diagnostic}
    (own : ∀ diagnostic ∈ diagnostics, diagnostic.file = some file) :
    write colours [.emitAll diagnostics] =
      String.join (diagnostics.map fun diagnostic => (ofDiagnostic diagnostic).text colours file) := by
  have texts := List.map_congr_left fun diagnostic inside => renderSpans_diagnostic colours (own diagnostic inside)
  rw [← texts, ← renderSpans_flatMap]
  simp [write, Call.spans]

theorem write_reports (colours : Bool) {files : List String} {diagnostics : String → List Diagnostic}
    (own : ∀ file ∈ files, ∀ diagnostic ∈ diagnostics file, diagnostic.file = some file) :
    write colours (files.map fun file => .emitAll (diagnostics file)) =
      String.join (files.flatMap fun file => (diagnostics file).map fun diagnostic =>
        (ofDiagnostic diagnostic).text colours file) := by
  induction files with
  | nil => rfl
  | cons file rest ih =>
    obtain ⟨first, later⟩ := List.forall_mem_cons.1 own
    rw [List.map_cons, ← List.singleton_append, write_append, write_emitAll colours first, ih later]
    simp

theorem write_summary (colours : Bool) (failed total : Nat) :
    write colours [.summary failed total, .flush] =
      if failed = 0 then "" else Report.summary colours failed total := by
  by_cases none : failed = 0
  · simp [write, Call.spans, summarySpans, renderSpans, none]
  · by_cases one : total = 1 <;>
      simp [write, Call.spans, summarySpans, renderSpans, Report.summary, Span.plain, render_span, none, one,
        String.append_assoc]

end Terminal

end TokenForest
