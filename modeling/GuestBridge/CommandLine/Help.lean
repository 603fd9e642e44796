import GuestBridge.CommandLine.Spec
import GuestBridge.Text.Wrap

/-! # Help texts

`CommandLine.helpText` shows how the program, or one of its commands, is used: what it does, a usage
line, and lists of commands, operands and options. A list has two columns, of which the second one
is wrapped. If the second column is too narrow for a text, all texts of the list stand below what
they explain.
-/

namespace GuestBridge.CommandLine

open Terminal (Span)

/-- How a help text is shown. -/
structure Display where
  /-- The number of places on a line. -/
  width : Nat
  /-- Whether names and headings stand out. -/
  emphasized : Bool

/-- The variable that holds the number of places on a line. -/
def widthVariable : String := "COLUMNS"

/-- The variable that, if it is not empty, makes names stand out wherever a text is printed. -/
def emphasisVariable : String := "CLICOLOR_FORCE"

/-- The variable that, if it is not empty, keeps names from standing out. -/
def plainVariable : String := "NO_COLOR"

/-- How the environment asks for help texts to be shown. -/
def Display.ofEnv (env : String → Option String) : Display where
  width := ((env widthVariable).bind number?).getD 100
  emphasized := (env plainVariable).getD "" == "" && (env emphasisVariable).getD "" != ""

/-- A part of a help text that does not stand out. -/
def plain (text : String) : Span := ⟨.plain, text⟩

/-- A name in a help text. -/
def strong (text : String) : Span := ⟨.strong, text⟩

/-- Spaces in a help text. -/
def spaces (count : Nat) : Span :=
  plain (String.ofList (List.replicate count ' '))

/-! ## Lists in two columns -/

/-- An entry of a list: a name and what it means. -/
structure Entry where
  form : List Span
  help : String
  /-- Remarks in brackets behind the help. -/
  notes : List String

namespace Entry

/-- The room that the name takes. -/
def formWidth (entry : Entry) : Nat :=
  (Terminal.plainText entry.form).length

/-- The remarks as one text. -/
def noteText (entry : Entry) : String :=
  " ".intercalate entry.notes

/-- What stands in the second column. -/
def description (entry : Entry) : String :=
  " ".intercalate (entry.help :: entry.notes)

/-- The room that the description takes, without the space before the remarks. -/
def descriptionWidth (entry : Entry) : Nat :=
  Wrap.width entry.help.toList + Wrap.width entry.noteText.toList

/-- Whether the description of an entry is crowded if it begins at a column: that is more than two
fifths along the line, and what is left of the line is too short. -/
def isCrowded (display : Display) (column : Nat) (entry : Entry) : Bool :=
  column ≤ display.width && 2 * display.width < 5 * column &&
    display.width - column < entry.descriptionWidth

/-- The description of an entry from a column on. -/
def wrapped (display : Display) (column : Nat) (entry : Entry) : Span :=
  plain (Wrap.indent column (Wrap.wrap (display.width - column) entry.description))

/-- An entry with its description at a column of the same line. -/
def beside (display : Display) (column : Nat) (entry : Entry) : List Span :=
  [spaces 2] ++ entry.form ++ [spaces (column - 2 - entry.formWidth)] ++
    [entry.wrapped display column]

/-- Where descriptions begin that stand below what they explain. -/
def lowerColumn : Nat := 10

/-- An entry with its description on the next line. -/
def above (display : Display) (entry : Entry) : List Span :=
  [spaces 2] ++ entry.form ++ [plain "\n", spaces lowerColumn] ++
    [entry.wrapped display lowerColumn]

end Entry

/-- A list of entries. -/
def table (display : Display) (entries : List Entry) : List Span :=
  let column := (entries.map Entry.formWidth).foldl max 2 + 4
  let rows :=
    if entries.any (Entry.isCrowded display column) then entries.map (Entry.above display)
    else entries.map (Entry.beside display column)
  [plain "\n"].intercalate rows

/-- A list under a heading, or nothing if the list is empty. -/
def tableSection (display : Display) (heading : String) (entries : List Entry) : List Span :=
  if entries.isEmpty then []
  else [plain "\n", ⟨.heading, heading ++ ":"⟩, plain "\n"] ++ table display entries ++ [plain "\n"]

/-! ## The parts of a help text -/

/-- How an option is written in full. -/
def OptionSpec.fullForm (option : OptionSpec) : List Span :=
  strong ("--" ++ option.long) ::
    option.placeholder.toList.map fun placeholder => plain (" <" ++ placeholder ++ ">")

/-- What the letter of an option adds to its full form; without a letter, as many spaces. -/
def letterForm : Option Char → List Span
  | some letter => [strong ("-" ++ String.singleton letter), plain ", "]
  | none => [spaces 4]

/-- Where else the value of an option may come from. -/
def Fallback.note? (env : String → Option String) : Fallback → Option String
  | .none => Option.none
  | .shown name => some ("[env: " ++ name ++ "=" ++ (env name).getD "" ++ "]")
  | .hidden name => some ("[env: " ++ name ++ "]")

/-- The entry of an option. -/
def OptionSpec.entry (env : String → Option String) (option : OptionSpec) : Entry where
  form := letterForm option.short ++ option.fullForm
  help := option.help
  notes := (option.fallback.note? env).toList ++
    option.standard.toList.map fun value => "[default: " ++ value ++ "]"

/-- The entry of a question to the program. -/
def Query.entry (query : Query) : Entry where
  form := letterForm (some query.short) ++ [strong ("--" ++ query.long)]
  help := query.text
  notes := []

/-- The entry of a command. -/
def CommandSpec.entry (spec : CommandSpec) : Entry where
  form := [strong spec.name]
  help := spec.help
  notes := []

/-- The commands with a name among those below a command. -/
def CommandSpec.commandsBelow (spec : CommandSpec) : List CommandSpec :=
  (commands ++ [helpCommand]).filter fun command => spec.below.contains command.name

/-- The name of a command with all that has to stand before it. -/
def CommandSpec.fullName (spec : CommandSpec) : String :=
  if spec.name = top.name then top.name
  else
    let required := top.options.filter (·.isRequired)
    " ".intercalate
      ([top.name] ++ required.map (Terminal.plainText ·.fullForm) ++ [spec.name])

/-- How a command is written. -/
def CommandSpec.usage (spec : CommandSpec) : List Span :=
  let required := spec.options.filter (·.isRequired)
  [strong spec.fullName] ++
    (if spec.options.all (·.isRequired) then [] else [plain " [OPTIONS]"]) ++
    required.flatMap (fun option => plain " " :: option.fullForm) ++
    spec.operand.toList.map (fun operand => plain (" " ++ operand.1)) ++
    (if spec.below.isEmpty then [] else [plain " <COMMAND>"])

/-- The parts of the help text of a command. -/
def CommandSpec.helpSpans (env : String → Option String) (display : Display)
    (spec : CommandSpec) : List Span :=
  [plain (Wrap.wrap display.width spec.help ++ "\n\n"), ⟨.heading, "Usage:"⟩, plain " "] ++
    spec.usage ++ [plain "\n"] ++
    tableSection display "Commands" (spec.commandsBelow.map CommandSpec.entry) ++
    tableSection display "Arguments"
      (spec.operand.toList.map fun (form, help) => ⟨[plain form], help, []⟩) ++
    tableSection display "Options"
      (spec.options.map (·.entry env) ++ spec.queries.map Query.entry)

/-- The help text of the program or of the command with a name. -/
def helpText (env : String → Option String) (name : String) : String :=
  let display := Display.ofEnv env
  let spec := ((commands ++ [helpCommand]).find? (·.name = name)).getD top
  Terminal.render display.emphasized (spec.helpSpans env display)

end GuestBridge.CommandLine
