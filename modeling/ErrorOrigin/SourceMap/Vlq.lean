/-!
# Variable-length numbers

An integer is written in digits to the base 32, the least significant first, each as one of 64
letters; the upper half of the letters says that more digits follow.  The lowest bit of the number
is its sign.  A number has at most twelve digits, so its magnitude stays below `2 ^ 59`.
-/

namespace ErrorOrigin.SourceMap.Vlq

/-- What is wrong with the written form of numbers. -/
inductive Fault where
  | invalidCharacter (c : Char)
  | truncated
  | overflow
deriving DecidableEq, Repr

/-- The letters in the order of their values. -/
def alphabet : List Char :=
  "ABCDEFGHIJKLMNOPQRSTUVWXYZabcdefghijklmnopqrstuvwxyz0123456789+/".toList

def value? (c : Char) : Option Nat :=
  alphabet.findIdx? (· = c)

def letter (value : Nat) : Char :=
  alphabet.getD value 'A'

theorem value?_letter {n : Nat} (h : n < 64) : value? (letter n) = some n := by
  revert n
  decide

/-- The most digits a number has. -/
def mostDigits : Nat := 12

/-- The integer whose lowest bit is its sign. -/
def ofSigned (n : Nat) : Int :=
  if n % 2 = 1 then -(n / 2 : Nat) else (n / 2 : Nat)

def toSigned (i : Int) : Nat :=
  2 * i.natAbs + if i < 0 then 1 else 0

theorem ofSigned_toSigned (i : Int) : ofSigned (toSigned i) = i := by
  unfold ofSigned toSigned
  split <;> split <;> omega

/-- The first byte of a character, as the character with that number. -/
def leadByte (c : Char) : Char :=
  Char.ofNat ((String.utf8EncodeChar c).headD 0).toNat

/-- The number with these digits to the base 32, the most significant first. -/
def ofDigits (digits : List Nat) : Nat :=
  digits.foldl (fun n digit => 32 * n + digit) 0

/-- The integers written in a text, after the digits of one that has begun, the last of them
first. -/
def decodeFrom (begun : List Nat) : List Char → Except Fault (List Int)
  | [] => if begun = [] then .ok [] else .error .truncated
  | c :: rest =>
    match value? c with
    | none => .error (.invalidCharacter (leadByte c))
    | some value =>
      if mostDigits ≤ begun.length then .error .overflow
      else
        let digits := value % 32 :: begun
        if value < 32 then (decodeFrom [] rest).map (ofSigned (ofDigits digits) :: ·)
        else decodeFrom digits rest

def decode (text : List Char) : Except Fault (List Int) :=
  decodeFrom [] text

/-- The digits of a number, as few as possible. -/
def encodeNat (n : Nat) : List Char :=
  if n < 32 then [letter n] else letter (n % 32 + 32) :: encodeNat (n / 32)
termination_by n
decreasing_by omega

def encode (list : List Int) : List Char :=
  list.flatMap fun i => encodeNat (toSigned i)

end ErrorOrigin.SourceMap.Vlq
