/-!
# Hexadecimal digits
-/

namespace ErrorOrigin.Text

/-- The value of a hexadecimal digit, in either case. -/
def hexDigit? (c : Char) : Option Nat :=
  if '0' ≤ c ∧ c ≤ '9' then some (c.toNat - '0'.toNat)
  else if 'a' ≤ c ∧ c ≤ 'f' then some (c.toNat - 'a'.toNat + 10)
  else if 'A' ≤ c ∧ c ≤ 'F' then some (c.toNat - 'A'.toNat + 10)
  else none

/-- The digit for a value below sixteen, in lower case. -/
def lowerHex (n : Nat) : Char :=
  n.digitChar

/-- The digit for a value below sixteen, in upper case. -/
def upperHex (n : Nat) : Char :=
  (lowerHex n).toUpper

theorem hexDigit?_lowerHex {n : Nat} (h : n < 16) : hexDigit? (lowerHex n) = some n := by
  revert n
  decide

theorem hexDigit?_upperHex {n : Nat} (h : n < 16) : hexDigit? (upperHex n) = some n := by
  revert n
  decide

end ErrorOrigin.Text
