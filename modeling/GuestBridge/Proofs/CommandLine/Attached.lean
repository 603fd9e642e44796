import GuestBridge.CommandLine.Arguments
import GuestBridge.Proofs.CommandLine.Delivery
import Mathlib.Data.List.TakeWhile

/-!
# Options with their values in one argument

An option and its value can be given as one argument, with a sign of equality between them
(`attached`). Unlike a value of its own, the value may then be anything, even something that looks
like an option. `scan_attached` says that such an argument adds the option, as long as the command
line or the command takes it.
-/

namespace GuestBridge.CommandLine

/-- The command line, or a command, takes a value for the option, and is not asked about itself by
that name. -/
structure CommandSpec.Takes (spec : CommandSpec) (option : OptionSpec) : Prop where
  found : spec.options.find? (·.long = option.long) = some option
  placeholder : option.placeholder.isSome
  /-- The name ends where the value begins. -/
  plain : '=' ∉ option.long.toList
  queries : ∀ query ∈ spec.queries, query.long ≠ option.long
  below : ∀ name ∈ spec.below, name.toList.head? ≠ some '-'

theorem toList_attached (option : OptionSpec) (value : String) :
    (attached option value).toList =
      '-' :: '-' :: (option.long.toList ++ '=' :: value.toList) := by
  simp [attached, String.toList_append]

variable {spec : CommandSpec} {option : OptionSpec}

theorem readArgument_attached (htakes : spec.Takes option) (found : Scanned) (value : String) :
    readArgument spec found (attached option value) = (found.add option value).map (none, ·) := by
  have hplain : ∀ char ∈ option.long.toList, decide (char ≠ '=') = true :=
    fun char hchar => decide_eq_true fun heq => htakes.plain (heq ▸ hchar)
  have hname : (option.long.toList ++ '=' :: value.toList).takeWhile (· ≠ '=') =
      option.long.toList := by
    rw [List.takeWhile_append_of_pos hplain]
    simp
  have hvalue : (option.long.toList ++ '=' :: value.toList).dropWhile (· ≠ '=') =
      '=' :: value.toList := by
    rw [List.dropWhile_append_of_pos hplain]
    simp
  have hquery : spec.queries.find? (·.long = option.long) = none :=
    List.find?_eq_none.2 fun query hquery => by simpa using htakes.queries query hquery
  obtain ⟨placeholder, hplaceholder⟩ := Option.isSome_iff_exists.1 htakes.placeholder
  rw [readArgument, toList_attached]
  show readLong spec found (option.long.toList ++ '=' :: value.toList) = _
  unfold readLong
  rw [hname, hvalue, String.ofList_toList]
  dsimp only
  rw [hquery, htakes.found]
  dsimp only
  rw [hplaceholder, String.ofList_toList]
  dsimp only
  cases found.add option value <;> rfl

/-- An option with its value in one argument is added to what was found. -/
theorem scan_attached (htakes : spec.Takes option) {found next : Scanned} {value : String}
    (hadd : found.settle.bind (·.add option value) = .ok next) (rest : List String) :
    scan spec none false found (attached option value :: rest) =
      scan spec none false next rest := by
  have hbelow : spec.below.contains (attached option value) = false := by
    rw [Bool.eq_false_iff]
    intro hcontains
    refine htakes.below _ (List.contains_iff_mem.1 hcontains) ?_
    rw [toList_attached]
    rfl
  have hdashes : attached option value ≠ "--" := by
    intro heq
    have hlist := toList_attached option value
    rw [heq] at hlist
    have hlength := congrArg List.length hlist
    simp at hlength
  have hread : found.settle.bind (readArgument spec · (attached option value)) =
      .ok (none, next) := by
    cases hsettle : found.settle with
    | error refusal => rw [hsettle] at hadd; cases hadd
    | ok settled =>
      rw [hsettle] at hadd
      have hadded : settled.add option value = .ok next := hadd
      show readArgument spec settled (attached option value) = _
      rw [readArgument_attached htakes, hadded]
      rfl
  rw [scan, hbelow, if_neg Bool.false_ne_true, if_neg hdashes, hread]

theorem takes_moduleOption : top.Takes moduleOption where
  found := rfl
  placeholder := rfl
  plain := by decide
  queries := by decide
  below := by decide

/-- The command that signs. -/
def signCommand : CommandSpec := commands[1]

theorem takes_keyOption : signCommand.Takes keyOption where
  found := rfl
  placeholder := rfl
  plain := by decide
  queries := by decide
  below := by decide

end GuestBridge.CommandLine
