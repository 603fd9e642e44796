import GuestBridge.CommandLine.Run
import GuestBridge.Script.Engine

/-! # The program

The program reads its arguments, carries out the command with the engine for scripts, and prints the
result. Random bytes come from the operating system and are fetched before the guest runs.
-/

namespace GuestBridge.Main

/-- The number of random bytes that are fetched for a guest, far more than a key needs. -/
def entropyLength : Nat := 1 <<< 16

/-- Why the operating system refused something, for the refusals that a path alone can cause. -/
def refusal : IO.Error → String
  | .noFileOrDirectory _ _ _ => "No such file or directory (os error 2)"
  | .inappropriateType _ 21 _ => "Is a directory (os error 21)"
  | .inappropriateType _ _ _ => "Not a directory (os error 20)"
  | .permissionDenied _ _ _ => "Permission denied (os error 13)"
  | error => toString error

/-- The content of the file at a path, or why it cannot be read. -/
def readFile (path : String) : IO (Except String Bytes) := do
  if path.contains '\x00' then return .error "file name contained an unexpected NUL byte"
  try
    return .ok (← IO.FS.readBinFile path).toList
  catch error => return .error (refusal error)

/-- A stream of random bytes of the operating system. It starts over at its end. -/
def systemEntropy : IO Entropy := do
  let bytes ← IO.getRandomBytes (USize.ofNat entropyLength)
  return .ofStream fun index =>
    if h : index % entropyLength < bytes.size then bytes[index % entropyLength] else 0

/-- All of the standard input. -/
def readInput : IO Bytes := do
  return (← (← IO.getStdin).readBinToEnd).toList

/-- Prints what a run of the program ends with. -/
def report : CommandLine.Exit → IO UInt32
  | .success output => do
    IO.print output
    return 0
  | .failure failure => do
    IO.eprint failure.report
    return 1
  | .usage => do
    IO.eprint (CommandLine.helpText (fun _ => none) CommandLine.top.name)
    return 2

/-- The variables of the environment that the program looks at. -/
def variableNames : List String :=
  [CommandLine.moduleVariable, CommandLine.keyVariable, CommandLine.widthVariable,
    CommandLine.emphasisVariable, CommandLine.plainVariable]

/-- Runs the program with an environment. -/
def run (env : String → Option String) (args : List String) : IO UInt32 := do
  match (CommandLine.reader CommandLine.refuse).read env args with
  | .error exit => report exit
  | .ok invocation =>
    let file ← readFile invocation.module
    let entropy ← systemEntropy
    let stdin ← if invocation.command.readsInput then readInput else pure []
    report (CommandLine.finish
      (CommandLine.perform Script.engine (fun _ => file) entropy stdin invocation))

end GuestBridge.Main

/-- Runs the program. -/
def main (args : List String) : IO UInt32 := do
  let names := GuestBridge.Main.variableNames
  let values ← names.mapM fun name => IO.getEnv name
  GuestBridge.Main.run (fun name => ((names.zip values).lookup name).join) args
