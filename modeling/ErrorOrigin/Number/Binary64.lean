/-!
# Finite doubles

A nonnegative finite double is a mantissa below `2 ^ 53` times a power of two that is at least
`2 ^ (-1074)`.  Arithmetic is exact on ratios of natural numbers and rounded once, to the nearest
double, a tie going to the even mantissa.
-/

namespace ErrorOrigin.Number

/-- The quotient rounded to the nearest natural number, a tie to the even one. -/
def roundDiv (n d : Nat) : Nat :=
  let q := n / d
  let r := n % d
  if 2 * r < d ∨ (2 * r = d ∧ q % 2 = 0) then q else q + 1

/-- The ratio `num / den` as a multiple of `base ^ k`. -/
def inUnits (base : Nat) (k : Int) (num den : Nat) : Nat × Nat :=
  if 0 ≤ k then (num, den * base.pow k.toNat) else (num * base.pow (-k).toNat, den)

/-- The double `mantissa * 2 ^ exponent`. -/
structure Binary64 where
  mantissa : Nat
  exponent : Int
deriving DecidableEq, Repr

namespace Binary64

/-- The least mantissa of full precision, `2 ^ 52`. -/
def leastNormal : Nat := 4503599627370496

def leastExponent : Int := -1074

def greatestExponent : Int := 971

def zero : Binary64 := ⟨0, leastExponent⟩

/-- The double as a ratio. -/
def ratio (x : Binary64) : Nat × Nat :=
  inUnits 2 (-x.exponent) x.mantissa 1

/-- The greatest `k` with `2 ^ k ≤ num / den`, for a positive ratio. -/
def binaryOrder (num den : Nat) : Int :=
  let k : Int := num.log2 - den.log2
  let (n, d) := inUnits 2 k num den
  if d ≤ n then k else k - 1

/-- The double nearest to `num / den`, unless that lies beyond the greatest double. -/
def ofRatio? (num den : Nat) : Option Binary64 :=
  if num = 0 then some zero
  else
    let e := max leastExponent (binaryOrder num den - 52)
    let (n, d) := inUnits 2 e num den
    let m := roundDiv n d
    let x : Binary64 := if m = 2 * leastNormal then ⟨leastNormal, e + 1⟩ else ⟨m, e⟩
    if x.exponent ≤ greatestExponent then some x else none

def mul? (x y : Binary64) : Option Binary64 :=
  let (a, b) := x.ratio
  let (c, d) := y.ratio
  ofRatio? (a * c) (b * d)

def div? (x y : Binary64) : Option Binary64 :=
  let (a, b) := x.ratio
  let (c, d) := y.ratio
  ofRatio? (a * d) (b * c)

end Binary64

end ErrorOrigin.Number
