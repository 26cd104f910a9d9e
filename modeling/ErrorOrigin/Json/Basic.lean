import ErrorOrigin.Number.Binary64

/-!
# JSON values

A number is an integer or a double, as its numeral was written.  Members of an object are kept in
the order of the text, repeated keys included; looking a key up finds its last value.

A scalar can be written correctly and yet stand for nothing: a string with half of a surrogate
pair, a numeral beyond the greatest double.  Such a scalar is `meaningless`, and so is an object
with such a key.  It does no harm where nobody asks for its value.
-/

namespace ErrorOrigin

open Number

inductive Json.Number where
  | int (n : Int)
  | real (negative : Bool) (magnitude : Binary64)
deriving DecidableEq, Repr

inductive Json where
  | null
  | bool (b : Bool)
  | number (n : Json.Number)
  | string (s : String)
  | array (items : List Json)
  | object (members : List (String × Json))
  | meaningless
deriving Inhabited, Repr

namespace Json

def str? : Json → Option String
  | .string s => some s
  | _ => none

/-- An integer from `least` to `greatest`. -/
def int? (least greatest : Int) : Json → Option Int
  | .number (.int n) => if least ≤ n ∧ n ≤ greatest then some n else none
  | _ => none

/-- A natural number up to `greatest`. -/
def nat? (greatest : Nat) (j : Json) : Option Nat :=
  (j.int? 0 greatest).map Int.toNat

def items? : Json → Option (List Json)
  | .array items => some items
  | _ => none

/-- The last value under `key`. -/
def lookup? (key : String) (members : List (String × Json)) : Option Json :=
  members.reverse.lookup key

def nat (n : Nat) : Json := .number (.int n)

def ofOption (f : α → Json) : Option α → Json
  | some a => f a
  | none => .null

end Json

end ErrorOrigin
