import TokenForest.Forest.Outline
import TokenForest.Output
import TokenForest.Taxonomy.Standard
import TokenForest.Diagnostic.Terminal

set_option autoImplicit false

namespace TokenForest.CommandLine

structure Surroundings where
  lookup : String → Option String
  read : String → Except ReadError String
  errorsToTerminal : Bool

structure Outcome where
  exit : UInt32
  stdout : String
  stderr : String
deriving DecidableEq

inductive Command
  | usage
  | version
  | taxonomy
  | explain (code : Option String)
  | classify (arguments : List String)
  | group (arguments : List String)
  | unknown (name : String)
deriving DecidableEq

def Command.ofArguments : List String → Command
  | [] => .usage
  | name :: arguments =>
    match name with
    | "classify" => .classify arguments
    | "structure" => .group arguments
    | "taxonomy" => .taxonomy
    | "explain" | "--explain" => .explain arguments.head?
    | "help" | "--help" | "-h" => .usage
    | "version" | "--version" | "-V" => .version
    | _ => .unknown name

def Command.files : Command → List String
  | .classify arguments | .group arguments => arguments.filter fun argument => argument.toList.head? ≠ some '-'
  | _ => []

def usage : String :=
  String.join <| [
    "QRParse token classifier",
    "",
    "Usage: qrp <command> [options]",
    "",
    "Commands:",
    "  classify <dump>...   Classify raw-token dumps and print positioned tokens",
    "  structure <dump>...  Classify and group into lines, collections and blocks",
    "  taxonomy             List every taxonomy path and its token kind",
    "  explain <code>       Explain an error code (e.g., E1002)",
    "  help                 Show this help message",
    "  version              Show version information",
    "",
    "Options:",
    "  --sequential         Process files one at a time",
    "  --significant        (structure) Drop whitespace and comments",
    "  --recover            (structure) Keep going past delimiter errors",
    "",
    "Dumps hold one token per line: <type path><TAB><escaped text>.",
    "Environment: QRP_STRUCTURE, QRP_RECOVER, QRP_KEEP_TRIVIA, QRP_PARALLEL, QRP_LOG"].map (· ++ "\n")

structure Request where
  settings : Settings
  files : List String

def Request.add (request : Request) (argument : String) : Except String Request :=
  let grouping := request.settings.structured
  if argument = "--sequential" then
    .ok { request with settings := { request.settings with parallel := false } }
  else if grouping && argument == "--significant" then
    .ok { request with settings := { request.settings with keepTrivia := false } }
  else if grouping && argument == "--recover" then
    .ok { request with settings := { request.settings with recover := true } }
  else if argument.toList.head? = some '-' then .error argument
  else .ok { request with files := request.files ++ [argument] }

def Request.addAll (request : Request) : List String → Except String Request
  | [] => .ok request
  | argument :: rest =>
    match request.add argument with
    | .ok next => next.addAll rest
    | .error flag => .error flag

def printed? (result : Except Failure Output) : Option String :=
  match result with
  | .error _ => none
  | .ok output =>
    some (output.name ++ " (" ++ toString output.tokens.length ++ " tokens):\n"
      ++ match output.structured with
        | some structured => structured.forest.outline
        | none => output.tokens.render)

def report (settings : Settings) : Except Failure Output → List Diagnostic
  | .ok output => output.diagnostics settings.recover
  | .error failure => [failure.diagnostic]

def isFailed (settings : Settings) (result : Except Failure Output) : Bool :=
  (report settings result).any Diagnostic.isError

def process (around : Surroundings) (workers : Workers) (request : Request) : Outcome :=
  let results := Output.ofFiles workers around.read request.files .standard request.settings
  let failed := results.countP (isFailed request.settings)
  let calls := results.map fun result => Terminal.Call.emitAll (report request.settings result)
  { exit := if failed = 0 then 0 else 1
    stdout := String.join (results.filterMap printed?)
    stderr := Terminal.write around.errorsToTerminal
      (calls ++ [.summary failed request.files.length, .flush]) }

def refuse (stderr : String) : Outcome :=
  ⟨1, "", stderr⟩

def processArguments (around : Surroundings) (workers : Workers) (grouping : Bool) (complaint : String)
    (arguments : List String) : Outcome :=
  let settings := { Settings.ofLookup around.lookup with structured := grouping }
  match Request.addAll ⟨settings, []⟩ arguments with
  | .error flag => refuse ("error: unknown option '" ++ flag ++ "'\n")
  | .ok request => if request.files.isEmpty then refuse complaint else process around workers request

def explain (code : Option String) : Outcome :=
  match code with
  | none => refuse "Usage: qrp explain <ERROR_CODE>\nExample: qrp explain E1002\n"
  | some text =>
    match ErrorCode.parse? text with
    | none => refuse ("Unknown error code: " ++ text ++ "\n")
    | some code => ⟨0, code.explanation, ""⟩

def Command.run (around : Surroundings) (workers : Workers) : Command → Outcome
  | .usage => ⟨0, CommandLine.usage, ""⟩
  | .version => ⟨0, "qrp 0.1.0\n", ""⟩
  | .taxonomy => ⟨0, Taxonomy.standard.render, ""⟩
  | .explain code => CommandLine.explain code
  | .classify arguments =>
      processArguments around workers false "Usage: qrp classify [--sequential] <dump>...\n" arguments
  | .group arguments =>
      processArguments around workers true
        "Usage: qrp structure [--significant] [--recover] [--sequential] <dump>...\n" arguments
  | .unknown name => ⟨1, CommandLine.usage, "Unknown command: " ++ name ++ "\n\n"⟩

def run (around : Surroundings) (arguments : List String) (workers : Workers := .tasks) : Outcome :=
  (Command.ofArguments arguments).run around workers

end TokenForest.CommandLine
