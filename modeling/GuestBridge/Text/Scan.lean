/-! # Taking tokens from the front of a text

Readers of texts take one token after another from the front of a list of characters. A fixed token
is taken by `Scan.expect?`, which succeeds exactly if the input starts with it
(`Scan.expect?_eq_some_iff`).
-/

namespace GuestBridge.Scan

/-- What follows a token, if the input starts with it. -/
def expect? : (token input : List Char) → Option (List Char)
  | [], input => some input
  | _ :: _, [] => none
  | t :: token, c :: input => if t = c then expect? token input else none

/-- A token is followed by exactly the rest of the input. -/
theorem expect?_eq_some_iff {token input rest : List Char} :
    expect? token input = some rest ↔ input = token ++ rest := by
  induction token generalizing input with
  | nil => simp [expect?]
  | cons t token ih =>
    cases input with
    | nil => simp [expect?]
    | cons c input =>
      by_cases h : t = c
      · simp [expect?, h, ih]
      · simp [expect?, h, Ne.symm h]

/-- Nothing is put back when a token is taken. -/
theorem length_le_of_expect? {token input rest : List Char}
    (h : expect? token input = some rest) : rest.length ≤ input.length := by
  rw [expect?_eq_some_iff.1 h, List.length_append]
  omega

end GuestBridge.Scan
