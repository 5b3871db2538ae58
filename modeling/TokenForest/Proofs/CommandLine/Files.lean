import TokenForest.Proofs.CommandLine.Flags
import TokenForest.Proofs.CommandLine.Reports
import TokenForest.Proofs.Diagnostic.Naming
import TokenForest.Proofs.Forest.Nesting
import TokenForest.Proofs.Output.Streaming

set_option autoImplicit false

namespace TokenForest

theorem StructureError.diagnostic_severity (error : StructureError) :
    error.diagnostic.code.isRecoverable = true ∧ error.diagnostic.severity = .error := by
  cases error with
  | mismatched | unopened => exact ⟨rfl, rfl⟩
  | unterminated opener delimiter unclosed =>
    by_cases many : unclosed > 1
    · simp only [diagnostic, many, if_true]
      exact ⟨rfl, rfl⟩
    · simp only [diagnostic, many, if_false]
      exact ⟨rfl, rfl⟩

theorem Output.any_isError_diagnostics (output : Output) (recovered : Bool) :
    (output.diagnostics recovered).any Diagnostic.isError = true ↔
      recovered = false ∧ ∃ structured, output.structured = some structured ∧ structured.errors ≠ [] := by
  have own (error : StructureError) : (if recovered then (error.diagnostic.inFile output.name).recovered
      else error.diagnostic.inFile output.name).isError = !recovered := by
    obtain ⟨recoverable, severity⟩ := error.diagnostic_severity
    cases recovered with
    | false => simp [Diagnostic.isError, Diagnostic.inFile, severity]
    | true => simp [Diagnostic.isError, Diagnostic.inFile, Diagnostic.recovered, recoverable]
  cases grouped : output.structured with
  | none => simp [diagnostics, grouped]
  | some structured =>
    simp only [diagnostics, grouped, List.any_map, Function.comp_def, own, List.any_eq_true]
    cases errors : structured.errors <;> simp [errors]

theorem Failure.isError_diagnostic (failure : Failure) : failure.diagnostic.isError = true := by
  cases failure with
  | unreadable | malformed | taxonomy => rfl
  | unclassified name cause =>
    obtain ⟨position, _ | ⟨path, _ | segment⟩⟩ := cause <;> rfl

namespace Output

theorem errors_structureTokens (settings : Settings) (tokens : TokenList) (strict : settings.recover = false) :
    (structureTokens settings tokens).errors ≠ [] ↔ ¬ Balanced tokens.brackets := by
  cases grouped : Forest.ofTokens settings.keepTrivia tokens with
  | ok forest =>
    have balanced := Forest.balanced_of_ofTokens grouped
    simp [structureTokens, strict, grouped, balanced]
  | error error =>
    have unbalanced : ¬ Balanced tokens.brackets := by
      intro balanced
      obtain ⟨forest, whole⟩ := Forest.ofTokens_of_balanced settings.keepTrivia balanced
      cases grouped.symm.trans whole
    simp [structureTokens, strict, grouped, unbalanced]

def tokens? (dump : String) (taxonomy : Taxonomy) : Option TokenList :=
  (Dump.parse dump).toOption.bind fun raw => (classifyStream taxonomy raw).toOption

theorem tokens?_eq_some_iff {dump : String} {taxonomy : Taxonomy} {tokens : TokenList} :
    tokens? dump taxonomy = some tokens ↔
      ∃ raw, Dump.parse dump = .ok raw ∧ classifyStream taxonomy raw = .ok tokens := by
  cases parsed : Dump.parse dump with
  | error error => simp [tokens?, parsed, Except.toOption]
  | ok raw => cases classified : classifyStream taxonomy raw <;> simp [tokens?, parsed, classified, Except.toOption]

theorem ofDump_of_tokens {name dump : String} {taxonomy : Taxonomy} {tokens : TokenList}
    (some : tokens? dump taxonomy = some tokens) (settings : Settings) :
    ofDump name dump taxonomy settings = .ok (ofTokens name settings tokens) := by
  obtain ⟨raw, parsed, classified⟩ := tokens?_eq_some_iff.1 some
  exact ofDump_eq_ok_iff.2 ⟨raw, tokens, parsed, classified, rfl⟩

theorem ofDump_of_none {name dump : String} {taxonomy : Taxonomy} (none : tokens? dump taxonomy = none)
    (settings : Settings) : ∃ failure, ofDump name dump taxonomy settings = .error failure := by
  cases made : ofDump name dump taxonomy settings with
  | error failure => exact ⟨failure, rfl⟩
  | ok output =>
    obtain ⟨raw, tokens, parsed, classified, -⟩ := ofDump_eq_ok_iff.1 made
    cases none.symm.trans (tokens?_eq_some_iff.2 ⟨raw, parsed, classified⟩)

theorem map_ofDiagnostic_diagnostics (output : Output) (recovered : Bool) :
    (output.diagnostics recovered).map Report.ofDiagnostic =
      match output.structured with
      | none => []
      | some structured => structured.errors.map (Report.misnested recovered) := by
  cases grouped : output.structured with
  | none => simp [diagnostics, grouped]
  | some structured =>
    simp only [diagnostics, grouped, List.map_map]
    exact List.map_congr_left fun error _ => Report.ofDiagnostic_misnested output.name recovered error

end Output

namespace CommandLine

def classified? (around : Surroundings) (file : String) : Option TokenList :=
  (around.read file).toOption.bind (Output.tokens? · .standard)

theorem classified?_eq_some_iff {around : Surroundings} {file : String} {tokens : TokenList} :
    classified? around file = some tokens ↔
      ∃ dump raw, around.read file = .ok dump ∧ Dump.parse dump = .ok raw ∧
        classifyStream .standard raw = .ok tokens := by
  cases contents : around.read file with
  | error cause => simp [classified?, contents, Except.toOption]
  | ok dump => simp [classified?, contents, Except.toOption, Output.tokens?_eq_some_iff]

theorem classified?_of_unreadable {around : Surroundings} {file : String} {cause : ReadError}
    (unread : around.read file = .error cause) : classified? around file = none := by
  simp only [classified?, unread, Except.toOption, Option.bind_none]

theorem classified?_of_malformed {around : Surroundings} {file dump : String} {error : Dump.Error}
    (contents : around.read file = .ok dump) (refused : Dump.parse dump = .error error) :
    classified? around file = none := by
  simp only [classified?, contents, Output.tokens?, refused, Except.toOption, Option.bind_some, Option.bind_none]

def resultOf (around : Surroundings) (settings : Settings) (file : String) : Except Failure Output :=
  Output.ofFile around.read file .standard settings

theorem resultOf_some {around : Surroundings} {file : String} {tokens : TokenList}
    (some : classified? around file = some tokens) (settings : Settings) :
    resultOf around settings file = .ok (Output.ofTokens file settings tokens) := by
  cases contents : around.read file with
  | error cause => simp [classified?, contents, Except.toOption] at some
  | ok dump =>
    simp only [classified?, contents, Except.toOption, Option.bind_some] at some
    simp only [resultOf, Output.ofFile, contents, Output.ofDump_of_tokens some]

theorem resultOf_none {around : Surroundings} {file : String} (none : classified? around file = none)
    (settings : Settings) : ∃ failure, resultOf around settings file = .error failure := by
  cases contents : around.read file with
  | error cause => exact ⟨.unreadable file cause, by simp [resultOf, Output.ofFile, contents]⟩
  | ok dump =>
    simp only [classified?, contents, Except.toOption, Option.bind_some] at none
    simp only [resultOf, Output.ofFile, contents]
    exact Output.ofDump_of_none none settings

def forestOf (around : Surroundings) (arguments : List String) (tokens : TokenList) : Forest :=
  let keepTrivia := decide (KeepsTrivia around arguments)
  if Recovers around arguments then (Forest.recover keepTrivia tokens).forest
  else (Forest.ofTokens keepTrivia tokens).toOption.getD []

def printout (around : Surroundings) (grouping : Bool) (arguments : List String) (file : String)
    (tokens : TokenList) : String :=
  file ++ " (" ++ toString tokens.length ++ " tokens):\n"
    ++ if grouping then (forestOf around arguments tokens).outline else tokens.render

theorem printed?_resultOf (around : Surroundings) (grouping : Bool) (arguments : List String) (file : String) :
    printed? (resultOf around (settingsOf around grouping arguments) file) =
      (classified? around file).map (printout around grouping arguments file) := by
  cases classified : classified? around file with
  | none =>
    obtain ⟨failure, failed⟩ := resultOf_none classified (settingsOf around grouping arguments)
    simp [failed, printed?]
  | some tokens =>
    rw [resultOf_some classified]
    cases grouping with
    | false => simp [printed?, printout, Output.ofTokens]
    | true =>
      simp only [printed?, printout, Output.ofTokens, structured_settingsOf, if_true, Option.map_some,
        Output.structureTokens, recover_settingsOf, keepTrivia_eq_decide, forestOf]
      split
      · rfl
      · cases Forest.ofTokens (decide (KeepsTrivia around arguments)) tokens <;> rfl

/-- A file fails that cannot be read, is no dump, or has a token without a kind. With strict grouping one fails also if
its brackets are not balanced. -/
inductive Fails (around : Surroundings) (grouping : Bool) (arguments : List String) (file : String) : Prop
  | unreadable {cause : ReadError} (unread : around.read file = .error cause)
  | malformed {dump : String} {error : Dump.Error} (contents : around.read file = .ok dump)
      (refused : Dump.parse dump = .error error)
  | unresolved {dump : String} {raw : List RawToken} {token : RawToken} {cause : Taxonomy.ResolveError}
      (contents : around.read file = .ok dump) (parsed : Dump.parse dump = .ok raw) (inside : token ∈ raw)
      (unknown : Taxonomy.standard.resolve token.path = .error cause)
  | unbalanced {tokens : TokenList} (classified : classified? around file = some tokens) (grouped : grouping = true)
      (strict : ¬ Recovers around arguments) (unbalanced : ¬ Balanced tokens.brackets)

theorem fails_of_none {around : Surroundings} {file : String} (none : classified? around file = none)
    (grouping : Bool) (arguments : List String) : Fails around grouping arguments file := by
  cases contents : around.read file with
  | error cause => exact .unreadable contents
  | ok dump =>
    cases parsed : Dump.parse dump with
    | error error => exact .malformed contents parsed
    | ok raw =>
      by_contra whole
      have resolves : ∀ token ∈ raw, ∃ kind, Taxonomy.standard.resolve token.path = .ok kind := by
        intro token inside
        cases resolved : Taxonomy.standard.resolve token.path with
        | ok kind => exact ⟨kind, rfl⟩
        | error cause => exact absurd (.unresolved contents parsed inside resolved) whole
      obtain ⟨tokens, stream⟩ := Classification.classifyStream_isOk_iff.2 resolves
      cases none.symm.trans (classified?_eq_some_iff.2 ⟨dump, raw, contents, parsed, stream⟩)

theorem fails_iff_of_some {around : Surroundings} {file : String} {tokens : TokenList}
    (classified : classified? around file = some tokens) (grouping : Bool) (arguments : List String) :
    Fails around grouping arguments file ↔
      grouping = true ∧ ¬ Recovers around arguments ∧ ¬ Balanced tokens.brackets := by
  obtain ⟨dump, raw, contents, parsed, stream⟩ := classified?_eq_some_iff.1 classified
  constructor
  · intro fails
    cases fails with
    | unreadable unread => cases contents.symm.trans unread
    | malformed again refused =>
      cases contents.symm.trans again
      cases parsed.symm.trans refused
    | unresolved again same inside unknown =>
      cases contents.symm.trans again
      cases parsed.symm.trans same
      obtain ⟨kind, resolved⟩ := Classification.classifyStream_isOk_iff.1 ⟨tokens, stream⟩ _ inside
      simp [resolved] at unknown
    | unbalanced again grouped strict unbalanced =>
      cases classified.symm.trans again
      exact ⟨grouped, strict, unbalanced⟩
  · rintro ⟨grouped, strict, unbalanced⟩
    exact .unbalanced classified grouped strict unbalanced

theorem isFailed_iff (around : Surroundings) (grouping : Bool) (arguments : List String) (file : String) :
    isFailed (settingsOf around grouping arguments) (resultOf around (settingsOf around grouping arguments) file) =
      true ↔ Fails around grouping arguments file := by
  cases classified : classified? around file with
  | none =>
    obtain ⟨failure, failed⟩ := resultOf_none classified (settingsOf around grouping arguments)
    simp [failed, isFailed, report, failure.isError_diagnostic, fails_of_none classified]
  | some tokens =>
    rw [resultOf_some classified, isFailed, report, Output.any_isError_diagnostics, fails_iff_of_some classified,
      ← recover_settingsOf around grouping arguments, Bool.not_eq_true]
    cases grouping with
    | false => simp [Output.ofTokens]
    | true =>
      simp only [Output.ofTokens, structured_settingsOf, if_true, Option.some.injEq, exists_eq_left', true_and]
      exact and_congr_right fun strict => Output.errors_structureTokens _ tokens strict

instance (around : Surroundings) (grouping : Bool) (arguments : List String) (file : String) :
    Decidable (Fails around grouping arguments file) :=
  decidable_of_iff _ (isFailed_iff around grouping arguments file)

inductive Reported (around : Surroundings) (grouping : Bool) (arguments : List String) (file : String) :
    List Report → Prop
  | unreadable {cause : ReadError} (unread : around.read file = .error cause) :
      Reported around grouping arguments file [.unreadable file cause]
  | malformed {dump : String} {front back : List (List Char)} {line : List Char} {number : Nat} {fault : Dump.Fault}
      (contents : around.read file = .ok dump) (split : Text.lines dump.toList = front ++ line :: back)
      (first : Output.FirstFault file .standard front line (.malformed file ⟨number, fault⟩)) :
      Reported around grouping arguments file [.malformed number fault]
  | unclassified {dump : String} {front back : List (List Char)} {line : List Char} {position : Position}
      {cause : Taxonomy.ResolveError} (contents : around.read file = .ok dump)
      (split : Text.lines dump.toList = front ++ line :: back)
      (first : Output.FirstFault file .standard front line (.unclassified file ⟨position, cause⟩)) :
      Reported around grouping arguments file [.unclassified position cause]
  | plain {tokens : TokenList} (classified : classified? around file = some tokens) (flat : grouping = false) :
      Reported around grouping arguments file []
  | recovered {tokens : TokenList} (classified : classified? around file = some tokens) (grouped : grouping = true)
      (recovers : Recovers around arguments) :
      Reported around grouping arguments file
        ((Forest.recover (decide (KeepsTrivia around arguments)) tokens).errors.map (.misnested true))
  | nested {tokens : TokenList} {forest : Forest} (classified : classified? around file = some tokens)
      (grouped : grouping = true) (strict : ¬ Recovers around arguments)
      (whole : Forest.ofTokens (decide (KeepsTrivia around arguments)) tokens = .ok forest) :
      Reported around grouping arguments file []
  | misnested {tokens : TokenList} {error : StructureError} (classified : classified? around file = some tokens)
      (grouped : grouping = true) (strict : ¬ Recovers around arguments)
      (refused : Forest.ofTokens (decide (KeepsTrivia around arguments)) tokens = .error error) :
      Reported around grouping arguments file [.misnested false error]

theorem Reported.exists (around : Surroundings) (grouping : Bool) (arguments : List String) (file : String) :
    ∃ reports, Reported around grouping arguments file reports := by
  cases contents : around.read file with
  | error cause => exact ⟨_, .unreadable contents⟩
  | ok dump =>
    rcases Output.said_or_firstFault file .standard (Text.lines dump.toList) with
      ⟨raw, said, resolves⟩ | ⟨front, line, back, failure, split, first⟩
    · obtain ⟨tokens, stream⟩ := Classification.classifyStream_isOk_iff.2 resolves
      have parsed : Dump.parse dump = .ok raw := Dump.parse_eq_ok_iff.2 (said.readLines 1)
      have classified := classified?_eq_some_iff.2 ⟨dump, raw, contents, parsed, stream⟩
      cases grouping with
      | false => exact ⟨_, .plain classified rfl⟩
      | true =>
        by_cases recovers : Recovers around arguments
        · exact ⟨_, .recovered classified rfl recovers⟩
        · cases grouped : Forest.ofTokens (decide (KeepsTrivia around arguments)) tokens with
          | ok forest => exact ⟨_, .nested classified rfl recovers grouped⟩
          | error error => exact ⟨_, .misnested classified rfl recovers grouped⟩
    · obtain ⟨raw, said, resolves, spoken, fault⟩ := first
      cases fault with
      | malformed decoded =>
        exact ⟨_, .malformed contents split ⟨raw, said, resolves, spoken, .malformed decoded⟩⟩
      | unclassified decoded unresolved =>
        exact ⟨_, .unclassified contents split ⟨raw, said, resolves, spoken, .unclassified decoded unresolved⟩⟩

theorem resultOf_of_firstFault {around : Surroundings} {file dump : String} {front back : List (List Char)}
    {line : List Char} {failure : Failure} (contents : around.read file = .ok dump)
    (split : Text.lines dump.toList = front ++ line :: back)
    (first : Output.FirstFault file .standard front line failure) (settings : Settings) :
    resultOf around settings file = .error failure := by
  simp only [resultOf, Output.ofFile, contents, first.ofDump split settings]

theorem map_report_of_classified {around : Surroundings} {file : String} {tokens : TokenList}
    (classified : classified? around file = some tokens) (grouping : Bool) (arguments : List String) :
    let settings := settingsOf around grouping arguments
    (report settings (resultOf around settings file)).map Report.ofDiagnostic =
      if grouping then
        (Output.structureTokens settings tokens).errors.map (.misnested (decide (Recovers around arguments)))
      else [] := by
  simp only [resultOf_some classified, report, Output.map_ofDiagnostic_diagnostics, Output.ofTokens,
    structured_settingsOf, recover_eq_decide]
  cases grouping <;> rfl

theorem Reported.eq {around : Surroundings} {grouping : Bool} {arguments : List String} {file : String}
    {reports : List Report} (reported : Reported around grouping arguments file reports) :
    let settings := settingsOf around grouping arguments
    reports = (report settings (resultOf around settings file)).map Report.ofDiagnostic := by
  cases reported with
  | unreadable unread => simp [resultOf, Output.ofFile, unread, report, Report.ofDiagnostic_unreadable]
  | malformed contents split first =>
    simp [resultOf_of_firstFault contents split first, report, Report.ofDiagnostic_malformed]
  | unclassified contents split first =>
    simp [resultOf_of_firstFault contents split first, report, Report.ofDiagnostic_unclassified]
  | plain classified flat => simp [map_report_of_classified classified, flat]
  | recovered classified grouped recovers =>
    simp [map_report_of_classified classified, grouped, Output.structureTokens, recover_eq_decide,
      keepTrivia_eq_decide, recovers]
  | nested classified grouped strict whole =>
    simp [map_report_of_classified classified, grouped, Output.structureTokens, recover_eq_decide,
      keepTrivia_eq_decide, strict, whole]
  | misnested classified grouped strict refused =>
    simp [map_report_of_classified classified, grouped, Output.structureTokens, recover_eq_decide,
      keepTrivia_eq_decide, strict, refused]

theorem Reported.unique {around : Surroundings} {grouping : Bool} {arguments : List String} {file : String}
    {reports others : List Report} (reported : Reported around grouping arguments file reports)
    (again : Reported around grouping arguments file others) : others = reports :=
  again.eq.trans reported.eq.symm

theorem file_of_report (around : Surroundings) (settings : Settings) (file : String) :
    ∀ diagnostic ∈ report settings (resultOf around settings file), diagnostic.file = some file := by
  cases contents : around.read file with
  | error cause => simp [resultOf, Output.ofFile, contents, report, Failure.diagnostic, Diagnostic.inFile]
  | ok dump =>
    cases made : Output.ofDump file dump .standard settings with
    | ok output =>
      simp only [resultOf, Output.ofFile, contents, made, report]
      exact fun _ inside => Output.name_of_ofDump made ▸ (Output.file_and_labels inside).1
    | error failure =>
      simp only [resultOf, Output.ofFile, contents, made, report, List.forall_mem_singleton]
      rcases Output.error_of_ofDump made with ⟨cause, rfl⟩ | ⟨cause, rfl⟩ <;> rfl

end CommandLine

end TokenForest
