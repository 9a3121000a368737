import Diagnostics.Programs.LineParser
import Diagnostics.Programs.Showcase

/-!
# The command line

Runs one of the bundled programs in the environment of the process: `simple`, `multiple-types`, or
`parser`, which may be given the path of a file.
-/
namespace Diagnostics.Programs

/-- The variables of the process that the programs look at. -/
def watchedVariables : List String :=
  ["NO_COLOR", "FORCE_COLOR", "TERM", "CUSTOM_ERROR_LOG_LEVEL", "CUSTOM_ERROR_COLOR",
    "CUSTOM_ERROR_STYLE", "CUSTOM_ERROR_DOCS_URL_TEMPLATE"]

/-- The environment of the process, with the environment file of its directory if there is one. -/
def readEnvironment : IO Environment := do
  let file ← try some <$> IO.FS.readFile ".env" catch _ => pure none
  let bindings ← watchedVariables.filterMapM fun name => do
    return (← IO.getEnv name).map fun value => (name, value)
  return ⟨bindings, file⟩

def lineParser (path text : String) (stream : Stream) : Action String := do
  printLines (← defineLineProblems) stream path text

def chosen : List String → IO (Option (Stream → Action String))
  | ["simple"] => return some fun stream => do printSimpleErrors (← defineSimpleErrors) stream
  | ["multiple-types"] =>
    return some fun stream => do printSystemErrors (← defineSystemErrors) stream
  | ["parser"] => return some (lineParser sampleFile.1 sampleFile.2)
  | ["parser", path] => return some (lineParser path (← IO.FS.readFile path))
  | _ => return none

end Diagnostics.Programs

open Diagnostics Diagnostics.Programs in
def main (args : List String) : IO UInt32 := do
  match ← chosen args with
  | none =>
    IO.eprintln "usage: simple | multiple-types | parser [FILE]"
    return 2
  | some program =>
    let stream := if ← (← IO.getStdout).isTty then Stream.terminal else .file
    match program stream { Session.initial with environment := ← readEnvironment } with
    | .ok text _ =>
      IO.print text
      return 0
    | .error fault _ =>
      IO.eprintln (fault.message?.getD "the settings are not valid")
      return 1
