import GuestBridge.CommandLine.Command
import GuestBridge.CommandLine.Spec

/-!
# What a reader of arguments delivers

The program leaves the reading of its arguments to a `Reader`. All that is asked of one is that it
delivers what the arguments say (`Reader.Delivers`). Every invocation can be written out in full
(`Invocation.arguments`), whatever its texts are: the values of options are attached to them, and an
operand stands behind two dashes. It only has to name a module, and its numbers have to be words of
64 bits (`Invocation.WellFormed`). A reader delivers if it reads every such invocation back from
what is written, and reads nothing else from any arguments.
-/

namespace GuestBridge.CommandLine

/-! ## Writing an invocation -/

/-- An option with its value in one argument. -/
def attached (option : OptionSpec) (value : String) : String :=
  "--" ++ option.long ++ "=" ++ value

/-- A number as it is written in an argument. -/
def numeral (number : Nat) : String :=
  String.ofList (Decimal.write number)

/-- An operand as arguments. Behind two dashes it may look like an option. -/
def operandArguments : Option String → List String
  | none => []
  | some text => ["--", text]

/-- The name of a command. -/
def Command.name : Command → String
  | .keygen => "keygen"
  | .sign _ _ => "sign"
  | .hash _ _ => "hash"
  | .format _ _ => "format"
  | .recover _ => "recover"

/-- The arguments behind the name of a command. -/
def Command.arguments : Command → List String
  | .keygen => []
  | .sign key message => attached keyOption key :: operandArguments message
  | .hash true message => "--bytes" :: operandArguments message
  | .hash false message => operandArguments message
  | .format chunks message => attached chunksOption (numeral chunks) :: operandArguments message
  | .recover formatted => operandArguments formatted

/-- The arguments of an invocation. -/
def Invocation.arguments (invocation : Invocation) : List String :=
  attached moduleOption invocation.module ::
    ((invocation.memoryLimit.map fun limit => attached memoryLimitOption (numeral limit)).toList ++
      invocation.command.name :: invocation.command.arguments)

/-- The module is named and the numbers are words of 64 bits. -/
structure Invocation.WellFormed (invocation : Invocation) : Prop where
  module_ne : invocation.module ≠ ""
  limit_lt : ∀ limit ∈ invocation.memoryLimit, limit < UInt64.size
  chunks_lt : ∀ chunks message, invocation.command = .format chunks message → chunks < UInt64.size

/-! ## Readers -/

/-- A reader delivers what arguments say, in whatever environment. -/
structure Reader.Delivers (reader : Reader) : Prop where
  /-- What is written out in full is read as it is. -/
  read_arguments (env : String → Option String) {invocation : Invocation}
    (hwell : invocation.WellFormed) : reader.read env invocation.arguments = .ok invocation
  /-- Whatever is read is well-formed. -/
  wellFormed_of_read {env : String → Option String} {args : List String} {invocation : Invocation}
    (hread : reader.read env args = .ok invocation) : invocation.WellFormed

end GuestBridge.CommandLine
