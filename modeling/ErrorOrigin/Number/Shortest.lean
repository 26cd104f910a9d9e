import ErrorOrigin.Number.Binary64

/-!
# Shortest decimal digits

The shortest digits of a double are the fewest that read back as it.  Among numerals with that
many digits the nearest to the double is taken, an exact tie going to the even last digit.

A decimal reads back as `m * 2 ^ e` when it lies between the midpoints to the neighbouring
doubles; a midpoint itself belongs to the even mantissa.  If any point of a decimal grid lies
there, so does one of the two grid points next to the double, so those two are all that is tried
on each grid.
-/

namespace ErrorOrigin.Number

/-- The decimal `d.ddd * 10 ^ exponent`, the digits without zeros at the end. -/
structure Scientific where
  digits : List Char
  exponent : Int
deriving DecidableEq, Repr

namespace Binary64

/-- The least `p` with `num / den < 10 ^ p`, for a positive ratio. -/
def decimalOrder (num den : Nat) : Int :=
  if den ≤ num then (Nat.toDigits 10 (num / den)).length
  else 1 - (Nat.toDigits 10 ((den - 1) / num) |>.length : Int)

/-- Whether `c * 10 ^ k` reads back as `x`, everything measured in quarters of the last binary
place of `x`. -/
def readsBack (x : Binary64) (c : Nat) (k : Int) : Bool :=
  let (cn, cd) := inUnits 10 (-k) c 1
  let (n, d) := inUnits 2 (x.exponent - 2) cn cd
  let below := if x.mantissa = leastNormal ∧ leastExponent < x.exponent then 1 else 2
  let low := (4 * x.mantissa - below) * d
  let high := (4 * x.mantissa + 2) * d
  if x.mantissa % 2 = 0 then low ≤ n && n ≤ high else low < n && n < high

/-- The point of the grid of multiples of `10 ^ k` that reads back as `x` and is nearest to it. -/
def onGrid? (x : Binary64) (k : Int) : Option Nat :=
  let (num, den) := x.ratio
  let (n, d) := inUnits 10 k num den
  let c := n / d
  match x.readsBack c k, x.readsBack (c + 1) k with
  | true, true =>
    if 2 * n < (2 * c + 1) * d ∨ (2 * n = (2 * c + 1) * d ∧ c % 2 = 0) then some c
    else some (c + 1)
  | true, false => some c
  | false, true => some (c + 1)
  | false, false => none

/-- Seventeen digits are always enough. -/
def shortest (x : Binary64) : Scientific :=
  if x.mantissa = 0 then ⟨['0'], 0⟩
  else
    let (num, den) := x.ratio
    let p := decimalOrder num den
    let (c, k) := (List.range 17).findSome? (fun (i : Nat) =>
      let k : Int := p - (i + 1)
      (x.onGrid? k).map (·, k)) |>.getD (0, 0)
    let digits := Nat.toDigits 10 c
    ⟨(digits.reverse.dropWhile (· == '0')).reverse, k + (digits.length - 1)⟩

end Binary64

end ErrorOrigin.Number
