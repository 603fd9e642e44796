import GuestBridge.CommandLine.Command
import GuestBridge.CommandLine.Spec

/-! # Reading the arguments

`CommandLine.parse` reads the arguments of the program from left to right, first the options of the
program, then those of one command (`CommandLine.scan`). An option takes its value from the same
argument or from the next one, and may be given once. A value from the next argument is not looked
at before something other than the name of a command follows, so a command may still show its help
(`Scanned.settle`). Behind two dashes everything is an operand. What is missing may come from the
environment.
-/

namespace GuestBridge.CommandLine

/-- Why there is no command to carry out. -/
inductive Refusal
  /-- The arguments are wrong. -/
  | usage
  /-- The program was asked how it, or one of its commands, is used. -/
  | help (command : String)
  /-- The program was asked for its version. -/
  | version
deriving DecidableEq

/-- What comes of asking about the program or a command. -/
def Query.refusal (spec : CommandSpec) : Query → Refusal
  | .help => .help spec.name
  | .version => .version

/-- What was found among the arguments so far. -/
structure Scanned where
  /-- The options by their long names, with their values; the value of a flag is empty. -/
  settings : List (String × String)
  /-- An option with a value that was read last and has not been looked at. -/
  unsettled : Option (OptionSpec × String)
  operand : Option String
  /-- The command that was named, and the arguments behind it. -/
  command : Option (String × List String)

/-- Nothing found yet. -/
def Scanned.nothing : Scanned := ⟨[], none, none, none⟩

/-- Adds an option, unless it was given before or does not accept the value. -/
def Scanned.add (found : Scanned) (option : OptionSpec) (value : String) :
    Except Refusal Scanned :=
  if (found.settings.lookup option.long).isSome || !option.accepts value then .error .usage
  else .ok { found with settings := (option.long, value) :: found.settings }

/-- Adds the value that has not been looked at. -/
def Scanned.settle (found : Scanned) : Except Refusal Scanned :=
  match found.unsettled with
  | none => .ok found
  | some (option, value) => { found with unsettled := none }.add option value

/-- Adds an operand, if the command takes one and has none yet. -/
def Scanned.addOperand (found : Scanned) (spec : CommandSpec) (value : String) :
    Except Refusal Scanned :=
  if spec.operand.isNone || found.operand.isSome then .error .usage
  else .ok { found with operand := some value }

/-- An argument behind two dashes: a flag, an option with its value, or an option that takes its
value from the next argument. -/
def readLong (spec : CommandSpec) (found : Scanned) (text : List Char) :
    Except Refusal (Option OptionSpec × Scanned) := do
  let name := String.ofList (text.takeWhile (· ≠ '='))
  let value : Option String :=
    match text.dropWhile (· ≠ '=') with
    | [] => none
    | _ :: value => some (String.ofList value)
  match spec.queries.find? (·.long = name), spec.options.find? (·.long = name) with
  | some query, _ => .error (if value.isNone then query.refusal spec else .usage)
  | none, none => .error .usage
  | none, some option =>
    match option.placeholder, value with
    | none, none => return (none, ← found.add option "")
    | none, some _ => .error .usage
    | some _, none => return (some option, found)
    | some _, some value => return (none, ← found.add option value)

/-- An argument behind one dash: letters of flags, and at the end possibly one of an option, whose
value is what remains or else the next argument. -/
def readShort (spec : CommandSpec) (found : Scanned) :
    List Char → Except Refusal (Option OptionSpec × Scanned)
  | [] => .ok (none, found)
  | letter :: rest =>
    match spec.queries.find? (·.short = letter), spec.options.find? (·.short = some letter) with
    | some query, _ => .error (query.refusal spec)
    | none, none => .error .usage
    | none, some option =>
      match option.placeholder, rest with
      | none, _ =>
        match found.add option "" with
        | .ok found => readShort spec found rest
        | .error refusal => .error refusal
      | some _, [] => .ok (some option, found)
      | some _, '=' :: value => (found.add option (String.ofList value)).map (none, ·)
      | some _, value => (found.add option (String.ofList value)).map (none, ·)

/-- Whether an argument looks like an option: a dash with something behind it. -/
def looksLikeOption (arg : String) : Bool :=
  match arg.toList with
  | '-' :: _ :: _ => true
  | _ => false

/-- Reads the next argument, which is not the value of an option. -/
def readArgument (spec : CommandSpec) (found : Scanned) (arg : String) :
    Except Refusal (Option OptionSpec × Scanned) :=
  match arg.toList with
  | '-' :: '-' :: name => readLong spec found name
  | '-' :: letter :: letters => readShort spec found (letter :: letters)
  | _ => (found.addOperand spec arg).map (none, ·)

/-- Reads arguments one after another. `pending` is an option that waits for its value; `only` says
that two dashes were read, so that only operands follow. -/
def scan (spec : CommandSpec) : (pending : Option OptionSpec) → (only : Bool) → Scanned →
    List String → Except Refusal Scanned
  | none, _, found, [] => .ok found
  | some _, _, _, [] => .error .usage
  | some option, only, found, arg :: rest =>
    if looksLikeOption arg then .error .usage
    else scan spec none only { found with unsettled := some (option, arg) } rest
  | none, true, found, arg :: rest =>
    match found.addOperand spec arg with
    | .ok found => scan spec none true found rest
    | .error refusal => .error refusal
  | none, false, found, arg :: rest =>
    if spec.below.contains arg then .ok { found with command := some (arg, rest) }
    else if arg = "--" then scan spec none true found rest
    else
      match found.settle.bind (readArgument spec · arg) with
      | .ok (pending, found) => scan spec pending false found rest
      | .error refusal => .error refusal

/-- A value that is required. -/
def required {α : Type} : Option α → Except Refusal α
  | some value => .ok value
  | none => .error .usage

/-- The value of an option: from the arguments, or else from a variable of the environment. -/
def settingOr (env : String → Option String) (found : Scanned) (option : OptionSpec)
    (name : String) : Except Refusal String := do
  let value ← required ((found.settings.lookup option.long).or (env name))
  if option.accepts value then return value else .error .usage

/-- The command with a name, given what was found among its arguments. -/
def commandOf (env : String → Option String) (name : String) (found : Scanned) :
    Except Refusal Command :=
  match name with
  | "keygen" => .ok .keygen
  | "sign" => (settingOr env found keyOption keyVariable).map (.sign · found.operand)
  | "hash" => .ok (.hash (found.settings.lookup bytesOption.long).isSome found.operand)
  | "format" =>
    let chunks := ((found.settings.lookup chunksOption.long).bind number?).getD 1
    .ok (.format chunks found.operand)
  | "recover" => .ok (.recover found.operand)
  | _ => .error .usage

/-- What the help command was asked about. -/
def helpTopic : List String → Refusal
  | [] => .help top.name
  | [name] => if top.below.contains name then .help name else .usage
  | _ => .usage

/-- Reads all arguments. -/
def parse (env : String → Option String) (args : List String) : Except Refusal Invocation := do
  let found ← scan top none false .nothing args
  let (name, rest) ← required found.command
  if name = helpCommand.name then .error (helpTopic rest)
  let spec ← required (commands.find? (·.name = name))
  let command ← commandOf env name (← (← scan spec none false .nothing rest).settle)
  let found ← found.settle
  let module ← settingOr env found moduleOption moduleVariable
  return ⟨module, (found.settings.lookup memoryLimitOption.long).bind number?, command⟩

/-- The reader of arguments, given how the program ends when it has no command to carry out. -/
def reader (refuse : (String → Option String) → Refusal → Exit) : Reader where
  read env args := (parse env args).mapError (refuse env)

end GuestBridge.CommandLine
