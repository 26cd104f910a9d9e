import ErrorOrigin.Json.Basic
import ErrorOrigin.Number.Shortest

/-!
# JSON numerals

The value of a numeral.  An integer numeral without point and exponent that fits 64 bits is an
integer, `-0` apart.  Every other numeral is a double: its digits are gathered into a 64-bit word
while they fit, which fixes a power of ten, and the two are joined by one rounded multiplication
or division. The powers of ten are doubles themselves and end at `10 ^ 308`.

A double is written with its shortest digits, positionally from `10 ^ -5` up to below `10 ^ 16`.
-/

namespace ErrorOrigin

open Number

namespace Json

/-- A numeral as written: digits before the point, digits after it, and the exponent. -/
structure Numeral where
  negative : Bool
  whole : List Char
  fraction : Option (List Char)
  exponent : Option Int
deriving DecidableEq, Repr

def wordLimit : Nat := 18446744073709551615

/-- The greatest magnitude of a negative integer of 64 bits. -/
def negativeLimit : Nat := 9223372036854775808

/-- A decimal `word * 10 ^ exponent` whose digits are being gathered. -/
structure Gathered where
  word : Nat
  exponent : Int
deriving DecidableEq, Repr

/-- Digits before the point: once one does not fit, all that follow only raise the exponent. -/
def Gathered.ofWhole : Gathered → List Char → Gathered
  | g, [] => g
  | g, c :: r =>
    let word := 10 * g.word + (c.toNat - '0'.toNat)
    if word ≤ wordLimit then Gathered.ofWhole { g with word } r
    else { g with exponent := g.exponent + (r.length + 1) }

/-- Digits after the point: once one does not fit, it and all that follow are ignored. -/
def Gathered.withFraction : Gathered → List Char → Gathered
  | g, [] => g
  | g, c :: r =>
    let word := 10 * g.word + (c.toNat - '0'.toNat)
    if word ≤ wordLimit then Gathered.withFraction ⟨word, g.exponent - 1⟩ r else g

def greatestPower : Int := 308

/-- The double nearest to `10 ^ k`. -/
def powerOfTen? (k : Nat) : Option Binary64 :=
  Binary64.ofRatio? (Nat.pow 10 k) 1

/-- The double for `x * 10 ^ e`, unless it is beyond the greatest one.  A power that is too small to
be a double is divided off in parts, as long as anything is left. -/
def scale? (x : Binary64) (e : Int) : Option Binary64 :=
  if e < -greatestPower then
    if x.mantissa = 0 then some x
    else
      (powerOfTen? greatestPower.toNat).bind fun step =>
        (x.div? step).bind fun y => scale? y (e + greatestPower)
  else if x.mantissa = 0 then some x
  else if e < 0 then (powerOfTen? (-e).toNat).bind x.div?
  else if e ≤ greatestPower then (powerOfTen? e.toNat).bind x.mul?
  else none
termination_by (-e).toNat
decreasing_by simp only [greatestPower] at *; omega

def Gathered.double? (g : Gathered) : Option Binary64 :=
  (Binary64.ofRatio? g.word 1).bind fun x => scale? x g.exponent

/-- The number a numeral stands for, unless it is beyond the greatest double. -/
def Numeral.number? (n : Numeral) : Option Json.Number :=
  let whole := Gathered.ofWhole ⟨0, 0⟩ n.whole
  let real (g : Gathered) := g.double?.map (.real n.negative)
  match n.fraction, n.exponent with
  | none, none =>
    if whole.exponent ≠ 0 then real whole
    else if ¬n.negative then some (.int whole.word)
    else if 0 < whole.word ∧ whole.word ≤ negativeLimit then some (.int (-whole.word))
    else real whole
  | fraction, exponent =>
    let g := whole.withFraction (fraction.getD [])
    real { g with exponent := g.exponent + exponent.getD 0 }

/-- A double below `10 ^ 16` and from `10 ^ -5` on is written positionally. -/
def writeReal (s : Scientific) : List Char :=
  if s.exponent < -5 ∨ 16 ≤ s.exponent then
    let point := if s.digits.length ≤ 1 then [] else '.' :: s.digits.drop 1
    let sign := if s.exponent < 0 then '-' else '+'
    s.digits.take 1 ++ point ++ ['e', sign] ++ Nat.toDigits 10 s.exponent.natAbs
  else if s.exponent < 0 then
    ['0', '.'] ++ List.replicate (s.exponent.natAbs - 1) '0' ++ s.digits
  else
    let n := s.exponent.toNat + 1
    let whole := s.digits.take n
    let fraction := if s.digits.length ≤ n then ['0'] else s.digits.drop n
    whole ++ List.replicate (n - whole.length) '0' ++ ['.'] ++ fraction

def Number.write : Json.Number → List Char
  | .int n => (toString n).toList
  | .real negative x => (if negative then ['-'] else []) ++ writeReal x.shortest

end Json

end ErrorOrigin
