import ErrorOrigin.Text.Hex

/-!
# Ranges of characters

Classes of characters that are too many to name are kept as ranges of their numbers.  They are
written in rows of words, a word being one number in hexadecimal or two with a dash between them.
-/

namespace ErrorOrigin.Text

/-- The number that hexadecimal digits write. -/
def hexNumber? (s : List Char) : Option Nat :=
  s.foldlM (fun n c => (hexDigit? c).map (16 * n + ·)) 0

/-- The numbers of a word, dashes between them. -/
def hexNumbers? (word : List Char) : Option (List Nat) :=
  (word.splitOn '-').mapM hexNumber?

/-- The numbers of every word in these rows. -/
def wordsOfRows (rows : List String) : List (List Nat) :=
  rows.flatMap fun row => (row.toList.splitOn ' ').filterMap hexNumbers?

/-- Ranges, each with its first and its last number. -/
abbrev Ranges := List (Nat × Nat)

def Ranges.ofRows (rows : List String) : Ranges :=
  (wordsOfRows rows).filterMap fun
    | [n] => some (n, n)
    | [first, last] => some (first, last)
    | _ => none

/-- Whether the character is in one of the ranges. -/
def Ranges.holds (ranges : Ranges) (c : Char) : Bool :=
  ranges.any fun (first, last) => first ≤ c.toNat && c.toNat ≤ last

end ErrorOrigin.Text
