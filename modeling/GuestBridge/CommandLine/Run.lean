import GuestBridge.CommandLine.Arguments
import GuestBridge.CommandLine.Help

/-! # The program and its arguments

`CommandLine.run` is the program with the reader of arguments that the command line has. If the
arguments ask how the program is used, the reader answers and nothing is carried out.
-/

namespace GuestBridge.CommandLine

/-- How the program ends when it has no command to carry out. -/
def refuse (env : String → Option String) : Refusal → Exit
  | .usage => .usage
  | .help name => .success (helpText env name)
  | .version => .success versionText

/-- Runs the program with arguments, an environment and a standard input. -/
def run {σ : Type} (engine : Engine σ) (files : FileReader) (entropy : Entropy)
    (env : String → Option String) (stdin : Bytes) (args : List String) : Exit :=
  (reader refuse).run engine files entropy env stdin args

end GuestBridge.CommandLine
