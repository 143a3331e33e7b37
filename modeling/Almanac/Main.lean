import Almanac.Startup.Basic

set_option autoImplicit false

namespace Almanac.Program

def readFile (path : String) : IO (Except Refusal (List UInt8)) := do
  match ← (IO.FS.readBinFile path).toBaseIO with
  | .ok bytes => return .ok bytes.toList
  | .error (.noFileOrDirectory ..) => return .error .notFound
  | .error (.inappropriateType _ code _) | .error (.invalidArgument _ code _) =>
    return .error ((Refusal.ofCode? code.toNat).getD .permissionDenied)
  | .error _ => return .error .permissionDenied

def readEnvironment : IO Environment := do
  let names := Setting.all.map (·.description.variableName)
  let values ← names.mapM fun name => return (name, ← IO.getEnv name)
  return fun name => (values.lookup name).join

def readFiles (settings : Settings) : IO (List (String × Except Refusal (List UInt8))) :=
  (settings.certFile.toList ++ settings.keyFile.toList).mapM fun path =>
    return (path, ← readFile path)

/-- Runs the service from the command line of the process. Taking connections is left to what stands
around this library: a start that succeeds ends the process with success. -/
def run (arguments : List String) : IO UInt32 := do
  let arguments := Help.serviceName :: arguments
  let environment ← readEnvironment
  let files ← match Settings.read environment arguments with
    | .ok settings => readFiles settings
    | .error _ => pure []
  let readFile (path : String) := (files.lookup path).getD (.error .notFound)
  match Launch.run (.unprivileged readFile) environment arguments with
  | .serving => return 0
  | .ended code output errors => do
    (← IO.getStdout).putStr output
    (← IO.getStderr).putStr errors
    return code

end Almanac.Program

def main (arguments : List String) : IO UInt32 := Almanac.Program.run arguments
