import TokenForest.CommandLine
import TokenForest.Proofs.Dump.Reading

set_option autoImplicit false

namespace TokenForest

namespace Diagnostic

def Shows (diagnostic : Diagnostic) (text : String) : Prop :=
  text.toList <:+: (Terminal.writeDiagnostic diagnostic).toList

instance (diagnostic : Diagnostic) (text : String) : Decidable (diagnostic.Shows text) :=
  inferInstanceAs (Decidable (text.toList <:+: (Terminal.writeDiagnostic diagnostic).toList))

theorem shows_of_span {diagnostic : Diagnostic} {span : Span} (inside : span ∈ Terminal.diagnosticSpans diagnostic)
    {text : String} (part : text.toList <:+: span.text.toList) : diagnostic.Shows text := by
  have written : (Terminal.writeDiagnostic diagnostic).toList =
      ((Terminal.diagnosticSpans diagnostic).map fun span => span.text.toList).flatten := by
    simp [Terminal.writeDiagnostic, Terminal.write, Terminal.Call.spans, Terminal.toList_renderSpans, List.flatMap_def]
  rw [Shows, written]
  exact part.trans (List.infix_of_mem_flatten (List.mem_map_of_mem inside))

theorem shows_of_message {diagnostic : Diagnostic} {text : String} (part : text.toList <:+: diagnostic.message.toList) :
    diagnostic.Shows text := by
  have inside : Span.plain (": " ++ diagnostic.message ++ "\n") ∈ Terminal.diagnosticSpans diagnostic := by
    simp [Terminal.diagnosticSpans]
  refine shows_of_span inside (part.trans ⟨": ".toList, "\n".toList, ?_⟩)
  simp [Span.plain]

theorem shows_file {diagnostic : Diagnostic} {file : String} (own : diagnostic.file = some file)
    (labelled : diagnostic.labels ≠ []) : diagnostic.Shows file := by
  obtain ⟨label, inside⟩ := List.exists_mem_of_ne_nil _ labelled
  obtain ⟨after, written⟩ : ∃ after, Span.plain ("  " ++ label.marker ++ " " ++ file ++ after) ∈
      Terminal.labelSpans file diagnostic.severity label := by
    refine ⟨":" ++ toString label.position.oneBased.1.toNat ++ ":" ++ toString label.position.oneBased.2.toNat ++ ": ", ?_⟩
    simp [Terminal.labelSpans, String.append_assoc]
  have span : Span.plain ("  " ++ label.marker ++ " " ++ file ++ after) ∈ Terminal.diagnosticSpans diagnostic := by
    have labels := List.mem_flatMap.2 ⟨label, inside, written⟩
    simp only [Terminal.diagnosticSpans, own, Option.getD_some, List.mem_append]
    exact .inl (.inl (.inl (.inr labels)))
  refine shows_of_span span ⟨"  ".toList ++ label.marker.toList ++ " ".toList, after.toList, ?_⟩
  simp [Span.plain]

end Diagnostic

theorem ClassifyError.labels_diagnostic (error : ClassifyError) : error.diagnostic.labels ≠ [] := by
  obtain ⟨position, _ | ⟨path, _ | segment⟩⟩ := error <;> exact List.cons_ne_nil _ _

theorem StructureError.labels_diagnostic (error : StructureError) : error.diagnostic.labels ≠ [] := by
  cases error with
  | mismatched | unopened => exact List.cons_ne_nil _ _
  | unterminated opener delimiter unclosed =>
    by_cases many : unclosed > 1
    · simp only [diagnostic, many, if_true]
      exact List.cons_ne_nil _ _
    · simp only [diagnostic, many, if_false]
      exact List.cons_ne_nil _ _

namespace Failure

theorem path_in_readMessage (path : String) (cause : ReadError) :
    path.toList <:+: (readMessage path cause).toList := by
  unfold readMessage
  cases cause.fault with
  | notFound => exact ⟨"cannot find file `".toList, "`".toList, by simp⟩
  | permissionDenied => exact ⟨"permission denied reading `".toList, "`".toList, by simp⟩
  | invalidData => exact ⟨"`".toList, "` contains invalid UTF-8 data".toList, by simp⟩
  | other => exact ⟨"error reading `".toList, ("`: " ++ cause.text).toList, by simp⟩

theorem unreadable_shows (path : String) (cause : ReadError) : (unreadable path cause).diagnostic.Shows path :=
  Diagnostic.shows_of_message (path_in_readMessage path cause)

theorem unclassified_shows (name : String) (cause : ClassifyError) :
    (unclassified name cause).diagnostic.Shows name :=
  Diagnostic.shows_file rfl cause.labels_diagnostic

theorem malformed_unnamed (name other : String) (cause : Dump.Error) :
    Terminal.writeDiagnostic (malformed name cause).diagnostic =
      Terminal.writeDiagnostic (malformed other cause).diagnostic :=
  rfl

end Failure

namespace Output

theorem name_of_ofDump {name dump : String} {taxonomy : Taxonomy} {settings : Settings} {output : Output}
    (made : ofDump name dump taxonomy settings = .ok output) : output.name = name := by
  obtain ⟨classified, -, rfl⟩ := map_eq_ok_iff.1 made
  rfl

theorem error_of_classifyItems {name : String} {classified : Classification}
    {items : List (Except Dump.Error RawToken)} {failure : Failure}
    (failed : classifyItems name classified items = .error failure) :
    (∃ cause, failure = .malformed name cause) ∨ ∃ cause, failure = .unclassified name cause := by
  induction items generalizing classified with
  | nil => cases failed
  | cons item rest ih =>
    cases item with
    | error cause =>
      cases failed
      exact .inl ⟨cause, rfl⟩
    | ok raw =>
      cases step : classified.classify raw with
      | ok extended =>
        simp only [classifyItems, step] at failed
        exact ih failed
      | error cause =>
        simp only [classifyItems, step] at failed
        cases failed
        exact .inr ⟨cause, rfl⟩

theorem error_of_ofDump {name dump : String} {taxonomy : Taxonomy} {settings : Settings} {failure : Failure}
    (failed : ofDump name dump taxonomy settings = .error failure) :
    (∃ cause, failure = .malformed name cause) ∨ ∃ cause, failure = .unclassified name cause := by
  cases classified : classifyItems name (.empty taxonomy) (Dump.read dump) with
  | ok last => simp [ofDump, classified, Except.map] at failed
  | error cause =>
    simp only [ofDump, classified, Except.map] at failed
    cases failed
    exact error_of_classifyItems classified

theorem file_and_labels {output : Output} {recovered : Bool} {diagnostic : Diagnostic}
    (inside : diagnostic ∈ output.diagnostics recovered) :
    diagnostic.file = some output.name ∧ diagnostic.labels ≠ [] := by
  cases grouped : output.structured with
  | none => simp [diagnostics, grouped] at inside
  | some structured =>
    simp only [diagnostics, grouped, List.mem_map] at inside
    obtain ⟨error, -, rfl⟩ := inside
    have labelled := error.labels_diagnostic
    cases recovered with
    | false => exact ⟨rfl, labelled⟩
    | true =>
      -- A warning has the file and the labels of the error it was.
      have labels := (error.diagnostic.inFile output.name).labels_recovered
      exact ⟨Diagnostic.file_recovered _, labels ▸ labelled⟩

theorem diagnostics_show (output : Output) (recovered : Bool) :
    ∀ diagnostic ∈ output.diagnostics recovered, diagnostic.Shows output.name :=
  fun _ inside => Diagnostic.shows_file (file_and_labels inside).1 (file_and_labels inside).2

end Output

/-- Every report on a file shows the file's name, be it that the file cannot be read, that a token has no kind or that
its brackets are at fault. The exception is a line of a dump that is no token: the report on it is the same whatever the
dump is called. -/
theorem reports_show_file (read : String → Except ReadError String) (name dump : String) (taxonomy : Taxonomy)
    (settings : Settings) :
    (∀ failure, Output.ofDump name dump taxonomy settings = .error failure →
      (∀ cause, failure ≠ .malformed name cause) → failure.diagnostic.Shows name) ∧
    (∀ output recovered, Output.ofDump name dump taxonomy settings = .ok output →
      ∀ diagnostic ∈ output.diagnostics recovered, diagnostic.Shows name) ∧
    (∀ cause, (Failure.unreadable name cause).diagnostic.Shows name) ∧
    ((∀ cause, Output.ofFile read name taxonomy settings ≠ .error (.malformed name cause)) →
      ∀ diagnostic ∈ CommandLine.report settings (Output.ofFile read name taxonomy settings), diagnostic.Shows name) ∧
    ∀ other cause, Terminal.writeDiagnostic (Failure.malformed name cause).diagnostic =
      Terminal.writeDiagnostic (Failure.malformed other cause).diagnostic := by
  have failing {dump : String} {failure : Failure} (failed : Output.ofDump name dump taxonomy settings = .error failure)
      (decoded : ∀ cause, failure ≠ .malformed name cause) : failure.diagnostic.Shows name := by
    rcases Output.error_of_ofDump failed with ⟨cause, malformed⟩ | ⟨cause, rfl⟩
    · exact absurd malformed (decoded cause)
    · exact Failure.unclassified_shows name cause
  have structured {dump : String} {output : Output} (recovered : Bool)
      (made : Output.ofDump name dump taxonomy settings = .ok output) :
      ∀ diagnostic ∈ output.diagnostics recovered, diagnostic.Shows name :=
    Output.name_of_ofDump made ▸ output.diagnostics_show recovered
  refine ⟨fun _ => failing, fun _ recovered => structured recovered, Failure.unreadable_shows name, fun decoded => ?_,
    Failure.malformed_unnamed name⟩
  cases contents : read name with
  | error cause =>
    simp only [Output.ofFile, contents, CommandLine.report, List.forall_mem_singleton]
    exact Failure.unreadable_shows name cause
  | ok text =>
    simp only [Output.ofFile, contents] at decoded ⊢
    cases made : Output.ofDump name text taxonomy settings with
    | ok output => exact structured settings.recover made
    | error failure =>
      simp only [CommandLine.report, List.forall_mem_singleton]
      exact failing made fun cause same => decoded cause (same ▸ made)

theorem malformed_dump_unnamed :
    ∃ failure, Output.ofDump "broken.dump" "Token.Name x\n" .standard {} = .error failure ∧
      ¬ failure.diagnostic.Shows "broken.dump" :=
  ⟨.malformed "broken.dump" ⟨1, .missingTab⟩, rfl, by decide +kernel⟩

end TokenForest
