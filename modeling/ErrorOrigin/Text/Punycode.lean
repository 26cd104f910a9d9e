import ErrorOrigin.Text.Cut

/-!
# Punycode

A text of any characters written with letters, digits and dashes: its ASCII characters, a dash after
them if there are any, then numbers, each of which puts in one more character.  Characters are put
in by ascending number, and those of one number from left to right, so it takes one number to say
both which comes next and where: it counts the places of the text one by one, and past the last
place goes on with the first one and the next character.

The digits of a number have 36 values, the lowest digit first.  The last digit of a number is the
first one below its threshold; the thresholds follow the size of the number before.
-/

namespace ErrorOrigin.Text.Punycode

/-- The value of a digit: the letters in lower case, then the decimal digits. -/
def digit? (c : Char) : Option Nat :=
  if c.isLower then some (c.toNat - 'a'.toNat)
  else if c.isDigit then some (c.toNat - '0'.toNat + 26)
  else none

/-- A digit below this value is the last of its number. -/
def threshold (bias position : Nat) : Nat :=
  min 26 (max 1 (36 * (position + 1) - bias))

/-- The bias for numbers of this size. -/
def biasOf (size : Nat) : Nat :=
  if 455 < size then 36 + biasOf (size / 35) else 36 * size / (size + 38)
termination_by size
decreasing_by omega

/-- The bias after a number by which the text reached this length. -/
def adapt (isFirst : Bool) (number length : Nat) : Nat :=
  let size := if isFirst then number / 700 else number / 2
  biasOf (size + size / length)

/-- A text into which characters are put, the number of the last one and the place after it. -/
structure Filling where
  text : List Char
  code : Nat
  place : Nat
  bias : Nat
deriving DecidableEq, Repr

/-- Put in the character that a number says, if there is one with its number. -/
def Filling.put? (f : Filling) (number : Nat) : Option Filling :=
  let length := f.text.length + 1
  let code := f.code + (f.place + number) / length
  let place := (f.place + number) % length
  if code < 0xD800 ∨ (0xDFFF < code ∧ code < 0x110000) then
    some
      { text := f.text.insertIdx place (Char.ofNat code)
        code
        place := place + 1
        bias := adapt (f.place = 0) number length }
  else none

/-- Put in one character for each number.  Of the first number `position` digits have been read,
which are worth `value`; its next digit counts `weight`. -/
def fill (f : Filling) (value weight position : Nat) : List Char → Option (List Char)
  | [] => if position = 0 then some f.text else none
  | c :: rest =>
    match digit? c with
    | none => none
    | some d =>
      let t := threshold f.bias position
      let value := value + d * weight
      if d < t then
        match f.put? value with
        | some f => fill f 0 1 0 rest
        | none => none
      else fill f value (weight * (36 - t)) (position + 1) rest

/-- The text that is written so.  A dash that nothing precedes does not end the ASCII characters. -/
def decode? (s : List Char) : Option (List Char) :=
  let fillIn (text numbers : List Char) := fill ⟨text, 0x80, 0, 72⟩ 0 1 0 numbers
  match cutLast? '-' s with
  | some ([], _) => none
  | some (ascii, numbers) => fillIn ascii numbers
  | none => fillIn [] s

end ErrorOrigin.Text.Punycode
