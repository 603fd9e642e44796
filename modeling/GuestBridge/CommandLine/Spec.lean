import GuestBridge.Text.Decimal

/-! # The shape of the command line

The command line has options of its own and five commands, each with options and at most one
operand. This module describes that shape as data (`CommandLine.top`, `CommandLine.commands`). The
reader of arguments and the help texts both work from it.
-/

namespace GuestBridge.CommandLine

/-- What a help text says about the environment variable behind an option. -/
inductive Fallback
  | none
  /-- The value of the variable is shown. -/
  | shown (name : String)
  /-- The value of the variable is kept secret. -/
  | hidden (name : String)

/-- An option. -/
structure OptionSpec where
  /-- The name behind two dashes. -/
  long : String
  /-- The letter behind one dash. -/
  short : Option Char
  /-- The placeholder of its value; a flag has none. -/
  placeholder : Option String
  isRequired : Bool
  /-- Whether a text is a value of the option. -/
  accepts : String → Bool
  fallback : Fallback
  /-- The value that counts if the option is absent, where there is one to be shown. -/
  standard : Option String
  help : String

/-- What the program can be asked about itself. -/
inductive Query
  | help | version
deriving DecidableEq

/-- The name behind two dashes that asks. -/
def Query.long : Query → String
  | .help => "help"
  | .version => "version"

/-- The letter behind one dash that asks. -/
def Query.short : Query → Char
  | .help => 'h'
  | .version => 'V'

/-- What asking does. -/
def Query.text : Query → String
  | .help => "Print help"
  | .version => "Print version"

/-- A command, or the command line as a whole. -/
structure CommandSpec where
  name : String
  help : String
  options : List OptionSpec
  /-- How the operand is written and what it is. -/
  operand : Option (String × String)
  /-- The names of the commands below this one. -/
  below : List String
  /-- What can be asked for: the help text, the version. -/
  queries : List Query

/-- The number that a text denotes, if it is a 64-bit number in plain decimal. A plus sign may stand
in front. -/
def number? (text : String) : Option Nat :=
  match text.toList with
  | '+' :: digits => Decimal.read? UInt64.size digits
  | digits => Decimal.read? UInt64.size digits

/-- The variable that names the guest module. -/
def moduleVariable : String := "SCHNORR_HOST_MODULE"

/-- The variable that holds the private key. -/
def keyVariable : String := "SCHNORR_HOST_PRIVATE_KEY"

/-- The option that names the guest module. -/
def moduleOption : OptionSpec where
  long := "module"
  short := some 'm'
  placeholder := some "MODULE"
  isRequired := true
  accepts text := !text.isEmpty
  fallback := .shown moduleVariable
  standard := none
  help := "Path to the guest WASM module"

/-- The option that limits guest memory. -/
def memoryLimitOption : OptionSpec where
  long := "memory-limit"
  short := none
  placeholder := some "MEMORY_LIMIT"
  isRequired := false
  accepts text := (number? text).isSome
  fallback := .none
  standard := none
  help := "Limit on the guest linear memory size in bytes"

/-- The option that holds the private key. -/
def keyOption : OptionSpec where
  long := "key"
  short := some 'k'
  placeholder := some "KEY"
  isRequired := true
  accepts _ := true
  fallback := .hidden keyVariable
  standard := none
  help := "Private key to sign with"

/-- The flag that asks for a hash as bytes. -/
def bytesOption : OptionSpec where
  long := "bytes"
  short := none
  placeholder := none
  isRequired := false
  accepts _ := true
  fallback := .none
  standard := none
  help := "Output little-endian hash bytes in hex instead of the textual hash literal"

/-- The option that sets the number of chunks. -/
def chunksOption : OptionSpec where
  long := "chunks"
  short := some 'c'
  placeholder := some "CHUNKS"
  isRequired := false
  accepts text := (number? text).isSome
  fallback := .none
  standard := some "1"
  help := "Number of chunks in the formatted message"

/-- The five commands. -/
def commands : List CommandSpec :=
  [{ name := "keygen"
     help := "Generates a new private key and prints it together with its address"
     options := []
     operand := none
     below := []
     queries := [.help] },
    { name := "sign"
      help := "Signs a message (usually, a hash) with the provided private key"
      options := [keyOption]
      operand := some ("[MESSAGE]",
        "Message to sign. If not specified, the message is read from the standard input")
      below := []
      queries := [.help] },
    { name := "hash"
      help := "Hashes a message"
      options := [bytesOption]
      operand := some ("[MESSAGE]",
        "Message to hash. If not specified, the message is read from the standard input")
      below := []
      queries := [.help] },
    { name := "format"
      help := "Formats a message as a struct consisting of the specified number of chunks"
      options := [chunksOption]
      operand := some ("[MESSAGE]",
        "Message to format. If not specified, the message is read from the standard input")
      below := []
      queries := [.help] },
    { name := "recover"
      help := "Recovers a message from its formatted representation"
      options := []
      operand := some ("[FORMATTED]",
        "Formatted message. If not specified, it is read from the standard input")
      below := []
      queries := [.help] }]

/-- The command that shows help. -/
def helpCommand : CommandSpec where
  name := "help"
  help := "Print this message or the help of the given subcommand(s)"
  options := []
  operand := some ("[COMMAND]...", "Print help for the subcommand(s)")
  below := []
  queries := []

/-- The command line as a whole. -/
def top : CommandSpec where
  name := "schnorr-host"
  help := "Signs and hashes messages with a sandboxed WASM guest module"
  options := [moduleOption, memoryLimitOption]
  operand := none
  below := (commands ++ [helpCommand]).map CommandSpec.name
  queries := [.help, .version]

/-- What the program prints when it is asked for its version. -/
def versionText : String := "schnorr-host-cli 0.1.0\n"

end GuestBridge.CommandLine
