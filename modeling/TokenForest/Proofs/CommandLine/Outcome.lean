import Mathlib.Logic.ExistsUnique
import TokenForest.Directory
import TokenForest.Proofs.CommandLine.Files
import TokenForest.Proofs.Taxonomy.Standard

set_option autoImplicit false

namespace TokenForest.CommandLine

def filesOf (arguments : List String) : List String :=
  arguments.filter fun argument => !isFlag argument

theorem run_eq_process (around : Surroundings) (workers : Workers) (grouping : Bool) {arguments : List String}
    (known : ∀ argument ∈ arguments, isFlag argument = true → argument ∈ knownFlags grouping)
    (named : ∃ argument ∈ arguments, isFlag argument = false) :
    run around ((if grouping then "structure" else "classify") :: arguments) workers =
      process around workers ⟨settingsOf around grouping arguments, filesOf arguments⟩ := by
  have nonempty : (filesOf arguments).isEmpty = false := by
    obtain ⟨argument, inside, plain⟩ := named
    rw [List.isEmpty_eq_false_iff]
    exact List.ne_nil_of_mem (List.mem_filter.2 ⟨inside, by simp [plain]⟩)
  have added := addAll_known ⟨{ Settings.ofLookup around.lookup with structured := grouping }, []⟩ known
  rw [List.nil_append, ← filesOf, ← settingsOf] at added
  cases grouping <;> simp [run, Command.ofArguments, Command.run, processArguments, added, nonempty]

theorem countP_isFailed (around : Surroundings) (grouping : Bool) (arguments files : List String) :
    (files.map (resultOf around (settingsOf around grouping arguments))).countP
        (isFailed (settingsOf around grouping arguments)) =
      files.countP fun file => Fails around grouping arguments file := by
  rw [List.countP_map]
  refine List.countP_congr fun file _ => ?_
  simp [isFailed_iff]

theorem process_settingsOf (around : Surroundings) {workers : Workers} (ordered : workers.Ordered) (grouping : Bool)
    (arguments files : List String) :
    let settings := settingsOf around grouping arguments
    let failed := files.countP fun file => Fails around grouping arguments file
    let outcome := process around workers ⟨settings, files⟩
    outcome.exit = (if failed = 0 then 0 else 1) ∧
    outcome.stdout = String.join (files.filterMap fun file =>
      (classified? around file).map (printout around grouping arguments file)) ∧
    outcome.stderr =
      Terminal.write around.errorsToTerminal
        (files.map fun file => .emitAll (report settings (resultOf around settings file))) ++
      if failed = 0 then "" else Report.summary around.errorsToTerminal failed files.length := by
  intro settings failed outcome
  have results : Output.ofFiles workers around.read files .standard settings = files.map (resultOf around settings) :=
    Output.ofFiles_eq_map ordered around.read files .standard settings
  have counted : (files.map (resultOf around settings)).countP (isFailed settings) = failed :=
    countP_isFailed around grouping arguments files
  have printed : (files.map (resultOf around settings)).filterMap printed? =
      files.filterMap fun file => (classified? around file).map (printout around grouping arguments file) := by
    rw [List.filterMap_map]
    exact congrArg (files.filterMap ·) (funext fun file => printed?_resultOf around grouping arguments file)
  simp only [outcome, process, results, counted, printed, Terminal.write_append, Terminal.write_summary, List.map_map,
    Function.comp_def, and_self]

def openDump : String :=
  "Token.Punctuation.Marker\t(\nToken.Text.Whitespace\t\\n\nToken.Name.Tag\tx\n"

def badDump : String :=
  "# a note\nToken.Name x\n"

def twoDumps : Surroundings where
  lookup name := if name = "QRP_KEEP_TRIVIA" then some " OFF" else none
  read := (Directory.ofListing [] [("open.dump", openDump.toUTF8), ("bad.dump", badDump.toUTF8)]).read
  errorsToTerminal := false

def openTokens : TokenList :=
  [⟨.punctuation .marker, "(", ⟨0, 0⟩⟩, ⟨.text .whitespace, "\n", ⟨0, 1⟩⟩, ⟨.name .tag, "x", ⟨1, 0⟩⟩]

theorem classified?_openDump : classified? twoDumps "open.dump" = some openTokens := by
  let raw (token : Token) : RawToken := ⟨token.kind.typePath, token.text⟩
  have parsed : Dump.parse openDump = .ok (openTokens.map raw) := by decide +kernel
  have stream (taxonomy : Taxonomy) (own : ∀ kind : Kind, taxonomy.resolve kind.typePath = .ok kind) :
      classifyStream taxonomy (openTokens.map raw) = .ok openTokens := by
    simp only [classifyStream, openTokens, List.map_cons, List.map_nil, raw, Classification.classifyAll,
      Classification.classify, Classification.next, Classification.add, Classification.empty, own, Except.map]
    rfl
  exact classified?_eq_some_iff.2 ⟨openDump, _, by decide +kernel, parsed, stream _ Taxonomy.resolve_typePath⟩

-- For any function in the place of classifying, which is not to be evaluated here.
theorem filterMap_of_first {α β : Type} {made : String → Option α} {text : String → α → β} {a b c : String} {value : α}
    (first : made a = some value) (second : made b = none) (third : made c = none) :
    [a, b, c].filterMap (fun file => (made file).map (text file)) = [text a value] := by
  simp [first, second, third]

end TokenForest.CommandLine
