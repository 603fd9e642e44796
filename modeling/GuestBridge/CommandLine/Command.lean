import GuestBridge.Setup

/-! # Carrying out a command

A command runs on one session of one runtime. `CommandLine.execute` carries it out on a session and
gives the text to print; `CommandLine.perform` opens the session first. Nothing is printed unless
everything has succeeded. A failure is reported as what was being done and the chain of its causes
(`Failure.report`). How an invocation is written in arguments is left to a `Reader`; `Reader.run` is
the program with any of them.
-/

namespace GuestBridge.CommandLine

/-- A command with its operands. A message that is absent is read from the standard input. -/
inductive Command
  | keygen
  | sign (key : String) (message : Option String)
  | hash (asBytes : Bool) (message : Option String)
  | format (chunks : Nat) (message : Option String)
  | recover (formatted : Option String)
deriving DecidableEq

/-- Everything that the arguments say. -/
structure Invocation where
  module : String
  memoryLimit : Option Nat
  command : Command
deriving DecidableEq

/-- What was being done when something failed, and the causes, the nearest one first. -/
structure Failure where
  context : String
  causes : List String
deriving DecidableEq

/-- The failure of a step of the bridge. -/
def Failure.ofError (context : String) (error : BridgeError) : Failure :=
  ⟨context, error.message :: error.source?.toList⟩

/-- The lines of a report: the context and the causes, which are numbered if there are several. -/
def Failure.report (failure : Failure) : String :=
  let causes :=
    match failure.causes with
    | [cause] => ["    " ++ cause]
    | causes => causes.mapIdx fun index cause => s!"    {index}: " ++ cause
  "Error: " ++ failure.context ++ "\n\nCaused by:\n" ++ "\n".intercalate causes ++ "\n"

/-- How the program ends. -/
inductive Exit
  /-- It has printed a text on the standard output. -/
  | success (output : String)
  /-- It has reported a failure. -/
  | failure (failure : Failure)
  /-- The arguments were wrong. -/
  | usage
deriving DecidableEq

/-- The exit code of the program. -/
def Exit.code : Exit → Nat
  | .success _ => 0
  | .failure _ => 1
  | .usage => 2

/-- The operand of a command: the argument, or else all of the standard input. -/
def operand (stdin : Bytes) : Option String → Bytes
  | some text => Bytes.ofText text
  | none => stdin

/-- Whether a command reads its operand from the standard input. -/
def Command.readsInput : Command → Bool
  | .keygen => false
  | .sign _ message | .hash _ message | .format _ message | .recover message => message.isNone

/-- The text that bytes encode, or the failure to decode them. -/
def decode (context : String) (bytes : Bytes) : Except Failure String :=
  match Utf8.decode? bytes with
  | some text => .ok text
  | none =>
    .error ⟨context, (Utf8.firstError? bytes).toList.map Utf8.DecodeError.message⟩

section

variable {σ α : Type}

/-- Performs an operation on a session; a failure gets a context. -/
def attempt (context : String) (session : Session σ)
    (operation : Exports σ → Lease σ → Report σ α) : Except Failure α :=
  match (session.perform none operation).outcome with
  | .ok result => .ok result
  | .error error => .error (.ofError context error)

/-- A new key and its address, on a line each. -/
def showKeyPair (pair : KeyPair) : String :=
  Utf8.decodeLossy pair.privateKey ++ "\n" ++ pair.address

/-- Carries out a command on a session. -/
def execute (session : Session σ) (stdin : Bytes) : Command → Except Failure String
  | .keygen =>
    (attempt "failed generating private key" session Operation.newPrivateKey).map showKeyPair
  | .sign key message =>
    attempt "failed signing message" session fun exports =>
      Operation.sign exports (Bytes.ofText key) (operand stdin message)
  | .hash false message =>
    attempt "failed hashing message" session fun exports =>
      Operation.hashText exports (operand stdin message)
  | .hash true message =>
    (attempt "failed hashing message" session fun exports =>
      Operation.hashBytes exports (operand stdin message)).map Bytes.hex
  | .format chunks message => do
    let formatted ← attempt "failed formatting message" session fun exports =>
      Operation.formatMessage exports (operand stdin message) chunks
    decode "formatted message is not UTF-8" formatted
  | .recover formatted => do
    let message ← attempt "failed recovering message" session fun exports =>
      Operation.recoverMessage exports (operand stdin formatted)
    decode "recovered message is not UTF-8" message

/-- Opens a session of a runtime; a failure gets a context. -/
def openSession (blueprint : Blueprint σ) (entropy : Entropy) : Except Failure (Session σ) :=
  match (Session.open? blueprint 1 entropy none).opening with
  | .opened session => .ok session
  | .refused error => .error (.ofError "failed creating guest session" error)
  | .panicked payload =>
    .error (.ofError "failed creating guest session" (.ofPanic payload))

/-- The setup that the arguments describe. -/
def Invocation.setup (invocation : Invocation) : Setup :=
  ⟨.file invocation.module, { Linkage.standard with memoryLimit := invocation.memoryLimit }⟩

/-- Loads the guest module, opens a session and carries out the command: the text to print. -/
def perform (engine : Engine σ) (files : FileReader) (entropy : Entropy) (stdin : Bytes)
    (invocation : Invocation) : Except Failure String := do
  let blueprint ←
    match engine.prepare files invocation.setup with
    | .ok blueprint => .ok blueprint
    | .error error =>
      .error (.ofError ("failed loading guest module from `" ++ invocation.module ++ "`") error)
  let session ← openSession blueprint entropy
  execute session stdin invocation.command

/-- How the program ends on an invocation. -/
def finish : Except Failure String → Exit
  | .ok output => .success (output ++ "\n")
  | .error failure => .failure failure

end

/-- A reader of arguments, which may look at the environment. It delivers an invocation, or else
ends the program by itself. -/
structure Reader where
  read : (env : String → Option String) → (args : List String) → Except Exit Invocation

/-- Runs the program with arguments, an environment and a standard input. -/
def Reader.run {σ : Type} (reader : Reader) (engine : Engine σ) (files : FileReader)
    (entropy : Entropy) (env : String → Option String) (stdin : Bytes) (args : List String) :
    Exit :=
  match reader.read env args with
  | .ok invocation => finish (perform engine files entropy stdin invocation)
  | .error exit => exit

end GuestBridge.CommandLine
