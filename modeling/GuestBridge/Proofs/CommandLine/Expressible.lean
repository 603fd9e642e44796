import GuestBridge.Proofs.CommandLine.Attached
import GuestBridge.Proofs.Heap.Computing
import GuestBridge.Proofs.Text.Numeral

/-!
# The arguments are read

The reader of arguments delivers (`delivers_reader`). Options are read one after the other from what
is written out in full (`exists_scan_options`), then the command with what stands behind it
(`exists_scan_command`), and together they are the invocation that was written (`parse_arguments`).
Conversely, every number was read from a numeral of 64 bits and the module is one that its option
accepts, so only well-formed invocations are read (`wellFormed_of_parse`).
-/

namespace GuestBridge.CommandLine

/-! ## Numbers -/

theorem number?_numeral {number : Nat} (hlt : number < UInt64.size) :
    number? (numeral number) = some number := by
  have hnumeral := Decimal.isNumeral_write number
  rw [number?, numeral, String.toList_ofList]
  split
  · next digits hplus =>
    -- A plus sign in front would be a digit.
    have hdigit := hnumeral.digits '+' (hplus ▸ List.mem_cons_self)
    exact absurd hdigit (by decide)
  · exact Decimal.read?_eq_some_iff.2 ⟨hnumeral, Decimal.value_write number, hlt⟩

theorem lt_of_number? {text : String} {number : Nat} (hread : number? text = some number) :
    number < UInt64.size := by
  unfold number? at hread
  split at hread <;> exact (Decimal.read?_eq_some_iff.1 hread).2.2

/-! ## Arguments are read -/

/-- Behind other options, an option with its value in one argument is read if it is new and accepts
the value. -/
theorem scan_option {spec : CommandSpec} {option : OptionSpec} (htakes : spec.Takes option)
    {value : String} (haccepts : option.accepts value = true) (settings : List (String × String))
    (hnew : settings.lookup option.long = none) (rest : List String) :
    scan spec none false ⟨settings, none, none, none⟩ (attached option value :: rest) =
      scan spec none false ⟨(option.long, value) :: settings, none, none, none⟩ rest := by
  refine scan_attached htakes ?_ rest
  show Scanned.add ⟨settings, none, none, none⟩ option value = _
  rw [Scanned.add, hnew, haccepts]
  rfl

/-- The name of a command ends the options in front of it. -/
theorem scan_name {spec : CommandSpec} {name : String} (hbelow : name ∈ spec.below)
    (found : Scanned) (rest : List String) :
    scan spec none false found (name :: rest) =
      .ok { found with command := some (name, rest) } := by
  rw [scan, if_pos (List.contains_iff_mem.2 hbelow)]

/-- An operand is taken as it is. -/
theorem scan_operandArguments {spec : CommandSpec} (hoperand : spec.operand.isSome)
    (hbelow : spec.below = []) (settings : List (String × String)) (operand : Option String) :
    scan spec none false ⟨settings, none, none, none⟩ (operandArguments operand) =
      .ok ⟨settings, none, operand, none⟩ := by
  cases operand with
  | none => rfl
  | some text =>
    have hnamed : spec.below.contains "--" = false := by
      rw [hbelow]
      rfl
    have hadded : Scanned.addOperand ⟨settings, none, none, none⟩ spec text =
        .ok ⟨settings, none, some text, none⟩ := by
      rw [Scanned.addOperand, Option.isNone_eq_false_iff.2 hoperand]
      rfl
    rw [operandArguments, scan, hnamed, if_neg Bool.false_ne_true, if_pos rfl, scan, hadded]
    rfl

theorem takes_memoryLimitOption : top.Takes memoryLimitOption where
  found := rfl
  placeholder := rfl
  plain := by decide
  queries := by decide
  below := by decide

/-- The command that formats. -/
def formatCommand : CommandSpec := commands[3]

theorem takes_chunksOption : formatCommand.Takes chunksOption where
  found := rfl
  placeholder := rfl
  plain := by decide
  queries := by decide
  below := by decide

/-- A command is read from the arguments behind its name. -/
theorem exists_scan_command (env : String → Option String) {command : Command}
    (hchunks : ∀ chunks message, command = .format chunks message → chunks < UInt64.size) :
    ∃ spec settings operand, commands.find? (·.name = command.name) = some spec ∧
      scan spec none false .nothing command.arguments = .ok ⟨settings, none, operand, none⟩ ∧
      commandOf env command.name ⟨settings, none, operand, none⟩ = .ok command := by
  cases command with
  | keygen => exact ⟨commands[0], [], none, rfl, rfl, rfl⟩
  | sign key message =>
    refine ⟨signCommand, [("key", key)], message, rfl, ?_, rfl⟩
    exact (scan_option takes_keyOption rfl [] rfl _).trans (scan_operandArguments rfl rfl _ message)
  | hash asBytes message =>
    cases asBytes with
    | false =>
      exact ⟨commands[2], [], message, rfl, scan_operandArguments rfl rfl [] message, rfl⟩
    | true =>
      exact ⟨commands[2], [("bytes", "")], message, rfl,
        scan_operandArguments rfl rfl [("bytes", "")] message, rfl⟩
  | format chunks message =>
    have hnumber := number?_numeral (hchunks chunks message rfl)
    have haccepts : chunksOption.accepts (numeral chunks) = true :=
      Option.isSome_iff_exists.2 ⟨chunks, hnumber⟩
    refine ⟨formatCommand, [("chunks", numeral chunks)], message, rfl, ?_, ?_⟩
    · exact (scan_option takes_chunksOption haccepts [] rfl _).trans
        (scan_operandArguments rfl rfl _ message)
    · show Except.ok (Command.format ((number? (numeral chunks)).getD 1) message) = _
      rw [hnumber]
      rfl
  | recover formatted =>
    exact ⟨commands[4], [], formatted, rfl, scan_operandArguments rfl rfl [] formatted, rfl⟩

/-- No command is the one that shows help, and the command line knows all of them. -/
theorem below_of_mem_commands : ∀ spec ∈ commands,
    spec.name ∈ top.below ∧ spec.name ≠ helpCommand.name := by
  decide

theorem accepts_moduleOption {module : String} (hne : module ≠ "") :
    moduleOption.accepts module = true := by
  simpa [moduleOption] using hne

/-- The options in front of a command are read, and the command is found. -/
theorem exists_scan_options {invocation : Invocation} (hwell : invocation.WellFormed)
    (hbelow : invocation.command.name ∈ top.below) :
    ∃ settings, scan top none false .nothing invocation.arguments = .ok ⟨settings, none, none,
        some (invocation.command.name, invocation.command.arguments)⟩ ∧
      settings.lookup "module" = some invocation.module ∧
      (settings.lookup "memory-limit").bind number? = invocation.memoryLimit := by
  obtain ⟨module, memoryLimit, command⟩ := invocation
  have hmodule := scan_option takes_moduleOption (accepts_moduleOption hwell.module_ne) [] rfl
  rw [Invocation.arguments]
  cases memoryLimit with
  | none => exact ⟨[("module", module)], (hmodule _).trans (scan_name hbelow _ _), rfl, rfl⟩
  | some limit =>
    have hnumber := number?_numeral (hwell.limit_lt limit rfl)
    have haccepts : memoryLimitOption.accepts (numeral limit) = true :=
      Option.isSome_iff_exists.2 ⟨limit, hnumber⟩
    have hlimit := scan_option takes_memoryLimitOption haccepts [("module", module)] rfl
    exact ⟨[("memory-limit", numeral limit), ("module", module)],
      (hmodule _).trans ((hlimit _).trans (scan_name hbelow _ _)), rfl, hnumber⟩

/-- The arguments of an invocation are read as that invocation. -/
theorem parse_arguments (env : String → Option String) {invocation : Invocation}
    (hwell : invocation.WellFormed) : parse env invocation.arguments = .ok invocation := by
  obtain ⟨spec, settings, operand, hspec, hcommand, hread⟩ :=
    exists_scan_command env hwell.chunks_lt
  have hname : spec.name = invocation.command.name := by
    simpa using List.find?_some hspec
  obtain ⟨hbelow, hother⟩ := below_of_mem_commands spec (List.mem_of_find?_eq_some hspec)
  rw [hname] at hbelow hother
  obtain ⟨options, hoptions, hmodule, hlimit⟩ := exists_scan_options hwell hbelow
  have hmoduleValue : settingOr env ⟨options, none, none,
      some (invocation.command.name, invocation.command.arguments)⟩ moduleOption moduleVariable =
      .ok invocation.module := by
    have hfound : options.lookup moduleOption.long = some invocation.module := hmodule
    rw [settingOr, hfound]
    exact if_pos (accepts_moduleOption hwell.module_ne)
  have hlimitValue : (options.lookup memoryLimitOption.long).bind number? =
      invocation.memoryLimit := hlimit
  unfold parse
  rw [hoptions]
  simp only [bind, Except.bind, required, hspec, hcommand, if_neg hother, Scanned.settle, hread,
    hmoduleValue, hlimitValue]
  rfl

/-! ## What is read is well-formed -/

open Operation (exists_of_bind_eq_ok)

/-- The number of chunks is read from a numeral, or else it is the standard one. -/
theorem chunks_lt_of_commandOf {env : String → Option String} {name : String} {found : Scanned}
    {chunks : Nat} {message : Option String}
    (hread : commandOf env name found = .ok (.format chunks message)) : chunks < UInt64.size := by
  unfold commandOf at hread
  split at hread
  case h_2 =>
    obtain ⟨key, -, hsign⟩ := exists_of_bind_eq_ok hread
    cases hsign
  case h_4 =>
    obtain ⟨rfl, -⟩ := Command.format.inj (Except.ok.inj hread)
    cases hvalue : (found.settings.lookup chunksOption.long).bind number? with
    | none => decide
    | some number =>
      obtain ⟨text, -, hnumber⟩ := Option.bind_eq_some_iff.1 hvalue
      exact lt_of_number? hnumber
  all_goals cases hread

/-- The module of an invocation is a text that the option accepts. -/
theorem accepts_of_settingOr {env : String → Option String} {found : Scanned}
    {option : OptionSpec} {name value : String}
    (hread : settingOr env found option name = .ok value) : option.accepts value = true := by
  obtain ⟨text, -, hread⟩ := exists_of_bind_eq_ok hread
  split at hread
  · next haccepts =>
    cases hread
    exact haccepts
  · cases hread

theorem wellFormed_of_parse {env : String → Option String} {args : List String}
    {invocation : Invocation} (hparse : parse env args = .ok invocation) :
    invocation.WellFormed := by
  obtain ⟨found, -, hparse⟩ := exists_of_bind_eq_ok hparse
  obtain ⟨⟨name, rest⟩, -, hparse⟩ := exists_of_bind_eq_ok hparse
  dsimp only at hparse
  split at hparse
  · cases hparse
  · obtain ⟨spec, -, hparse⟩ := exists_of_bind_eq_ok hparse
    obtain ⟨scanned, -, hparse⟩ := exists_of_bind_eq_ok hparse
    obtain ⟨settled, -, hparse⟩ := exists_of_bind_eq_ok hparse
    obtain ⟨command, hcommand, hparse⟩ := exists_of_bind_eq_ok hparse
    obtain ⟨options, -, hparse⟩ := exists_of_bind_eq_ok hparse
    obtain ⟨module, hmodule, hparse⟩ := exists_of_bind_eq_ok hparse
    cases hparse
    refine ⟨?_, fun limit hlimit => ?_, fun chunks message heq => ?_⟩
    · simpa [moduleOption] using accepts_of_settingOr hmodule
    · obtain ⟨text, -, hnumber⟩ := Option.bind_eq_some_iff.1 (Option.mem_def.1 hlimit)
      exact lt_of_number? hnumber
    · exact chunks_lt_of_commandOf (hcommand.trans (congrArg Except.ok heq))

/-- A reader reads what is parsed, however it ends the program otherwise. -/
theorem read_reader_eq_ok_iff {refuse : (String → Option String) → Refusal → Exit}
    {env : String → Option String} {args : List String} {invocation : Invocation} :
    (reader refuse).read env args = .ok invocation ↔ parse env args = .ok invocation := by
  show (parse env args).mapError (refuse env) = _ ↔ _
  cases parse env args with
  | ok found =>
    have hread : Except.mapError (refuse env) (.ok found : Except Refusal Invocation) = .ok found :=
      rfl
    rw [hread, Except.ok.injEq, Except.ok.injEq]
  | error refusal => exact ⟨nofun, nofun⟩

/-- The reader of arguments that the program has delivers what they say. -/
theorem delivers_reader (refuse : (String → Option String) → Refusal → Exit) :
    (reader refuse).Delivers where
  read_arguments env _ hwell := read_reader_eq_ok_iff.2 (parse_arguments env hwell)
  wellFormed_of_read hread := wellFormed_of_parse (read_reader_eq_ok_iff.1 hread)

/-- The reader of a program that answers no questions about itself. -/
def curtReader : Reader := reader fun _ _ => .usage

theorem delivers_curtReader : curtReader.Delivers := delivers_reader _

end GuestBridge.CommandLine
