import TokenForest.Failure
import TokenForest.Forest.Structured
import TokenForest.Settings

set_option autoImplicit false

namespace TokenForest

/-- What was made of one file. A stream that strict structuring refuses has an empty forest and one fault. -/
structure Output where
  name : String
  tokens : TokenList
  structured : Option Structured

structure Workers where
  map : (String → Except Failure Output) → List String → List (Except Failure Output)

namespace Workers

/-- The results come back in the order of the files, whichever of them is done first. -/
def Ordered (workers : Workers) : Prop :=
  ∀ process files, workers.map process files = files.map process

def tasks : Workers :=
  ⟨fun process files => (files.map fun file => Task.spawn fun _ => process file).map Task.get⟩

theorem tasks_ordered : tasks.Ordered := by
  intro process files
  simp [tasks, Task.spawn]

end Workers

namespace Output

def diagnostics (output : Output) (recovered : Bool) : List Diagnostic :=
  match output.structured with
  | none => []
  | some structured =>
    structured.errors.map fun error =>
      let diagnostic := error.diagnostic.inFile output.name
      if recovered then diagnostic.recovered else diagnostic

def structureTokens (settings : Settings) (tokens : TokenList) : Structured :=
  if settings.recover then Forest.recover settings.keepTrivia tokens
  else
    match Forest.ofTokens settings.keepTrivia tokens with
    | .ok forest => ⟨forest, []⟩
    | .error error => ⟨[], [error]⟩

def ofTokens (name : String) (settings : Settings) (tokens : TokenList) : Output where
  name := name
  tokens := tokens
  structured := if settings.structured then some (structureTokens settings tokens) else none

def classifyItems (name : String) (classified : Classification) :
    List (Except Dump.Error RawToken) → Except Failure Classification
  | [] => .ok classified
  | .error error :: _ => .error (.malformed name error)
  | .ok raw :: rest =>
    match classified.classify raw with
    | .ok extended => classifyItems name extended rest
    | .error error => .error (.unclassified name error)

def ofDump (name dump : String) (taxonomy : Taxonomy) (settings : Settings) : Except Failure Output :=
  (classifyItems name (.empty taxonomy) (Dump.read dump)).map fun classified =>
    ofTokens name settings classified.tokens

def ofFile (read : String → Except ReadError String) (path : String) (taxonomy : Taxonomy)
    (settings : Settings) : Except Failure Output :=
  match read path with
  | .ok dump => ofDump path dump taxonomy settings
  | .error error => .error (.unreadable path error)

def ofFiles (workers : Workers) (read : String → Except ReadError String) (paths : List String)
    (taxonomy : Taxonomy) (settings : Settings) : List (Except Failure Output) :=
  let process := fun path => ofFile read path taxonomy settings
  -- One file is not worth a worker.
  if settings.parallel && paths.length > 1 then workers.map process paths else paths.map process

theorem ofFiles_eq_map {workers : Workers} (ordered : workers.Ordered) (read : String → Except ReadError String)
    (paths : List String) (taxonomy : Taxonomy) (settings : Settings) :
    ofFiles workers read paths taxonomy settings = paths.map fun path => ofFile read path taxonomy settings := by
  unfold ofFiles
  split
  · exact ordered _ _
  · rfl

end Output

end TokenForest
