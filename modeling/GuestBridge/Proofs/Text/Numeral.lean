import GuestBridge.Text.Decimal
import Mathlib.Data.List.Induction
import Mathlib.Tactic.IntervalCases

/-!
# Numerals

A numeral is a run of one or more ASCII digits (`Decimal.IsNumeral`), leading zeros included.
`Decimal.read?` accepts exactly the numerals whose value is below its bound (`read?_eq_some_iff`),
and `Decimal.write` gives a numeral of its argument (`isNumeral_write`, `value_write`). In front of
anything but a digit, a numeral ends where its digits end (`takeWhile_numeral`,
`dropWhile_numeral`). A number has one numeral without superfluous zeros at its front
(`Decimal.IsShortest`), the one that is written for it (`isShortest_write`,
`IsShortest.write_value`). No other numeral of the number is shorter (`length_write_le`).
-/

namespace GuestBridge.Decimal

/-- A numeral: one or more ASCII digits, with any number of leading zeros. -/
structure IsNumeral (text : List Char) : Prop where
  ne_nil : text ≠ []
  digits : ∀ char ∈ text, isDigit char = true

theorem isNumeral_iff {text : List Char} : IsNumeral text ↔ text ≠ [] ∧ text.all isDigit = true :=
  ⟨fun h => ⟨h.ne_nil, List.all_eq_true.2 h.digits⟩, fun h => ⟨h.1, List.all_eq_true.1 h.2⟩⟩

instance (text : List Char) : Decidable (IsNumeral text) :=
  decidable_of_iff _ isNumeral_iff.symm

/-- A whole text is read as a number exactly if it is a numeral of that number. -/
theorem read?_eq_some_iff {bound number : Nat} {text : List Char} :
    read? bound text = some number ↔ IsNumeral text ∧ value text = number ∧ number < bound := by
  have hnumeral : IsNumeral text ↔ (text.isEmpty || !text.all isDigit) = false := by
    rw [isNumeral_iff, Bool.or_eq_false_iff, List.isEmpty_eq_false_iff, Bool.not_eq_false']
  rw [hnumeral]
  unfold read?
  cases text.isEmpty || !text.all isDigit with
  | true => simp
  | false =>
    simp only [Bool.false_eq_true, if_false, true_and, Option.ite_none_right_eq_some,
      Option.some.injEq]
    constructor
    · rintro ⟨hlt, rfl⟩
      exact ⟨rfl, hlt⟩
    · rintro ⟨rfl, hlt⟩
      exact ⟨hlt, rfl⟩

/-- The shortest numeral of a number consists of digits. -/
theorem isNumeral_write (number : Nat) : IsNumeral (write number) where
  ne_nil := Nat.toDigits_ne_nil
  digits char hmem := by
    have hdigit := Nat.isDigit_of_mem_toDigits (by decide) (by decide) hmem
    simpa [Char.isDigit, isDigit, Char.le_def] using hdigit

/-- The shortest numeral of a number denotes that number. -/
theorem value_write (number : Nat) : value (write number) = number := by
  have hfold : value (write number) = Nat.ofDigitChars 10 (Nat.toDigits 10 number) 0 := by
    rw [Nat.ofDigitChars_eq_foldl]
    simp only [value, write, digitValue, Nat.mul_comm]
  rw [hfold, Nat.ofDigitChars_ten_toDigits]

section
variable {numeral rest : List Char}

/-- The digits at the front of a text are those of the numeral that it begins with. -/
theorem takeWhile_numeral (hnumeral : IsNumeral numeral)
    (hrest : rest.head?.all (!isDigit ·) = true) :
    (numeral ++ rest).takeWhile isDigit = numeral := by
  rw [List.takeWhile_append_of_pos hnumeral.digits]
  cases rest with
  | nil => simp
  | cons char rest =>
    have hstop : isDigit char = false := by simpa using hrest
    simp [hstop]

/-- Behind the digits at the front of a text is what follows the numeral that it begins with. -/
theorem dropWhile_numeral (hnumeral : IsNumeral numeral)
    (hrest : rest.head?.all (!isDigit ·) = true) :
    (numeral ++ rest).dropWhile isDigit = rest := by
  rw [List.dropWhile_append_of_pos hnumeral.digits]
  cases rest with
  | nil => simp
  | cons char rest =>
    have hstop : isDigit char = false := by simpa using hrest
    simp [hstop]

end

/-! ## Shortest numerals -/

/-- A numeral without superfluous zeros at its front. -/
structure IsShortest (text : List Char) : Prop extends IsNumeral text where
  leading : text = ['0'] ∨ text.head? ≠ some '0'

instance (text : List Char) : Decidable (IsShortest text) :=
  decidable_of_iff (IsNumeral text ∧ (text = ['0'] ∨ text.head? ≠ some '0'))
    ⟨fun h => ⟨h.1, h.2⟩, fun h => ⟨h.toIsNumeral, h.leading⟩⟩

theorem code_of_isDigit {char : Char} (hdigit : isDigit char = true) :
    48 ≤ char.toNat ∧ char.toNat ≤ 57 := by
  simpa [isDigit, Char.le_def, UInt32.le_iff_toNat_le] using hdigit

theorem digitValue_lt {char : Char} (hdigit : isDigit char = true) : digitValue char < 10 := by
  have hcode := code_of_isDigit hdigit
  show char.toNat - 48 < 10
  omega

/-- A digit is written as itself. -/
theorem write_digitValue {char : Char} (hdigit : isDigit char = true) :
    write (digitValue char) = [char] := by
  have hchar (code : Nat) (hleast : 48 ≤ code) (hgreatest : code ≤ 57) :
      (code - 48).digitChar = Char.ofNat code := by
    interval_cases code <;> rfl
  obtain ⟨hleast, hgreatest⟩ := code_of_isDigit hdigit
  rw [write, Nat.toDigits_of_lt_base (digitValue_lt hdigit), digitValue,
    show '0'.toNat = 48 from rfl, hchar _ hleast hgreatest, Char.ofNat_toNat]

theorem value_append (digits : List Char) (digit : Char) :
    value (digits ++ [digit]) = value digits * 10 + digitValue digit := by
  rw [value, List.foldl_append]
  rfl

/-- Digits of which the first is not zero are the shortest numeral of their number. -/
theorem write_value_of_head {digits : List Char} (hdigits : ∀ char ∈ digits, isDigit char = true)
    (hne : digits ≠ []) (hhead : digits.head? ≠ some '0') :
    0 < value digits ∧ write (value digits) = digits := by
  induction digits using List.reverseRecOn with
  | nil => exact absurd rfl hne
  | append_singleton front last ih =>
    have hlast : isDigit last = true := hdigits last (by simp)
    have hfront (char : Char) (hmem : char ∈ front) : isDigit char = true :=
      hdigits char (List.mem_append_left _ hmem)
    rw [value_append]
    rcases front with _ | ⟨first, rest⟩
    · have hwrite := write_digitValue hlast
      have hpos : digitValue last ≠ 0 := by
        intro hzero
        rw [hzero] at hwrite
        exact hhead (congrArg List.head? hwrite.symm)
      rw [show value [] = 0 from rfl, Nat.zero_mul, Nat.zero_add]
      exact ⟨Nat.pos_of_ne_zero hpos, hwrite⟩
    · obtain ⟨hpos, hwrite⟩ := ih hfront (List.cons_ne_nil _ _) hhead
      refine ⟨by omega, ?_⟩
      rw [Nat.mul_comm, write,
        ← Nat.toDigits_append_toDigits (by decide) hpos (digitValue_lt hlast)]
      exact congrArg₂ (· ++ ·) hwrite (write_digitValue hlast)

/-- The shortest numeral of a number is the one that is written for it. -/
theorem IsShortest.write_value {numeral : List Char} (hshortest : IsShortest numeral) :
    write (value numeral) = numeral := by
  rcases hshortest.leading with rfl | hhead
  · rfl
  · exact (write_value_of_head hshortest.digits hshortest.ne_nil hhead).2

/-- A numeral with a zero in front of it denotes the same number. -/
theorem value_zero_cons (numeral : List Char) : value ('0' :: numeral) = value numeral := rfl

/-- No numeral of a number has fewer digits than the one that is written for it. -/
theorem length_write_le {numeral : List Char} (hnumeral : IsNumeral numeral) :
    (write (value numeral)).length ≤ numeral.length := by
  induction numeral with
  | nil => exact absurd rfl hnumeral.ne_nil
  | cons first rest ih =>
    by_cases hzero : first = '0'
    · subst hzero
      rw [value_zero_cons]
      rcases rest with _ | ⟨second, rest⟩
      · exact Nat.le_refl _
      · have hrest : IsNumeral (second :: rest) :=
          ⟨List.cons_ne_nil _ _, fun char hmem => hnumeral.digits char (.tail _ hmem)⟩
        exact Nat.le_succ_of_le (ih hrest)
    · have hhead : (first :: rest).head? ≠ some '0' := fun h => hzero (Option.some.inj h)
      rw [(write_value_of_head hnumeral.digits hnumeral.ne_nil hhead).2]

/-- What is written for a number has no superfluous zeros. -/
theorem isShortest_write (number : Nat) : IsShortest (write number) := by
  have hnumeral := isNumeral_write number
  have hvalue := value_write number
  refine ⟨hnumeral, or_iff_not_imp_right.2 fun hhead => ?_⟩
  obtain ⟨rest, hwrite⟩ : ∃ rest, write number = '0' :: rest :=
    List.head?_eq_some_iff.1 (not_not.1 hhead)
  rw [hwrite] at hnumeral hvalue ⊢
  by_cases hrest : rest = []
  · rw [hrest]
  · -- Without the zero in front, there would be a shorter numeral of the same number.
    have hshorter : IsNumeral rest := ⟨hrest, fun char hmem => hnumeral.digits char (.tail _ hmem)⟩
    have hlength := length_write_le hshorter
    rw [← value_zero_cons, hvalue, hwrite, List.length_cons] at hlength
    exact absurd hlength (Nat.not_succ_le_self _)

end GuestBridge.Decimal
