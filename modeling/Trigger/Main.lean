import Trigger.CommandLine.Run
import Trigger.Config.Standard
import Trigger.Value.Standard

/-!
# The command line program

Reads the files that the arguments name, runs the command line on them and prints how the run ends.
-/

namespace Trigger.CommandLine

/-- The files that can be read among those with the given paths. -/
def readFiles : List String → IO Files
  | [] => return []
  | path :: rest => do
    let files ← readFiles rest
    try
      let bytes ← IO.FS.readBinFile path
      return (path, bytes.toList) :: files
    catch _ => return files

/-- Prints how a run ends and gives its exit code. -/
def conclude (args : Arguments) : Outcome → IO UInt32
  | .exit code printed => do
    IO.print printed
    return code.toUInt32
  | .stop message => do
    IO.eprintln message
    return 1
  | .failure f => do
    IO.eprintln (f.message args)
    return 1

/-- Runs the command line with the given words and gives its exit code. -/
def program (words : List String) : IO UInt32 := do
  match Arguments.ofWords words with
  | .error .help => do
    IO.print usage
    return (usageCode .help).toUInt32
  | .error .misused => do
    IO.eprint usage
    return (usageCode .misused).toUInt32
  | .ok args => do
    let files ← readFiles (paths args)
    conclude args (runArguments .standard .standard files args)

end Trigger.CommandLine

/-- The program. -/
def main (words : List String) : IO UInt32 := Trigger.CommandLine.program words
