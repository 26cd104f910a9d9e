/-!
# Decimal numerals

A numeral is a nonempty run of ASCII digits.  Reading is bounded: a numeral above the limit of the
quantity it stands for has no value, however it is written.
-/

namespace ErrorOrigin.Text

def isNumeral (s : List Char) : Bool :=
  !s.isEmpty && s.all Char.isDigit

/-- The value of a numeral, if it is one and is at most `limit`. -/
def readNumeral? (limit : Nat) (s : List Char) : Option Nat :=
  if isNumeral s then some (Nat.ofDigitChars 10 s 0) |>.filter (· ≤ limit) else none

/-- The value of a numeral, if it is one and lies between `1` and `limit`. -/
def readPositive? (limit : Nat) (s : List Char) : Option Nat :=
  (readNumeral? limit s).filter (0 < ·)

theorem isNumeral_toDigits (n : Nat) : isNumeral (Nat.toDigits 10 n) = true := by
  simp only [isNumeral, Bool.and_eq_true, Bool.not_eq_true', List.isEmpty_eq_false_iff,
    List.all_eq_true]
  exact ⟨Nat.toDigits_ne_nil, fun c hc =>
    Nat.isDigit_of_mem_toDigits (by decide) (by decide) hc⟩

theorem readNumeral?_toDigits {limit n : Nat} (h : n ≤ limit) :
    readNumeral? limit (Nat.toDigits 10 n) = some n := by
  simp [readNumeral?, isNumeral_toDigits, Nat.ofDigitChars_toDigits, h]

end ErrorOrigin.Text
