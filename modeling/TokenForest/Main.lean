import TokenForest.CommandLine
import TokenForest.Directory

set_option autoImplicit false

namespace TokenForest

def ReadError.ofSystem : IO.Error → ReadError
  | .noFileOrDirectory _ code details => ⟨.notFound, systemText code details⟩
  | .permissionDenied _ code details => ⟨.permissionDenied, systemText code details⟩
  | .inappropriateType _ code details | .invalidArgument _ code details
  | .otherError code details | .resourceExhausted _ code details => ⟨.other, systemText code details⟩
  | error => ⟨.other, toString error⟩
where
  systemText (code : UInt32) (details : String) : String :=
    details ++ " (os error " ++ toString code.toNat ++ ")"

def readFile (path : String) : IO (Except ReadError String) := do
  try
    let handle ← IO.FS.Handle.mk path .read
    return Directory.decode (← handle.readBinToEnd)
  catch error =>
    return .error (.ofSystem error)

def surroundings (command : CommandLine.Command) : IO CommandLine.Surroundings := do
  let known ← Settings.variableNames.mapM fun name => return (name, ← IO.getEnv name)
  let files ← command.files.mapM fun path => return (path, ← readFile path)
  let stderr ← IO.getStderr
  return {
    lookup := fun name => (known.lookup name).join
    read := fun path => (files.lookup path).getD (.error Directory.missing)
    errorsToTerminal := ← stderr.isTty }

end TokenForest

def main (arguments : List String) : IO UInt32 := do
  let command := TokenForest.CommandLine.Command.ofArguments arguments
  let outcome := command.run (← TokenForest.surroundings command) .tasks
  (← IO.getStdout).putStr outcome.stdout
  (← IO.getStderr).putStr outcome.stderr
  return outcome.exit
