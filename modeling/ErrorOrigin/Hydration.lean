import ErrorOrigin.Text.Blank
import ErrorOrigin.Text.Cut
import ErrorOrigin.Text.Lines

/-!
# Hydration mismatches

A message about a failed hydration brings its own picture of the trouble: a block of lines, those
marked with a plus or a minus showing what differs.
-/

namespace ErrorOrigin.Hydration

open Text

/-- A line that shows a difference, however far it is indented. -/
def isDiffLine (line : List Char) : Bool :=
  match trimStart line with
  | '+' :: ' ' :: _ => true
  | '-' :: ' ' :: _ => true
  | _ => false

/-- The lines from the first to the last one that shows a difference. -/
def block (ls : List (List Char)) : List (List Char) :=
  ((ls.dropWhile fun l => !isDiffLine l).reverse.dropWhile fun l => !isDiffLine l).reverse

def mentions (message : List Char) : Bool :=
  occurs "hydrat".toList (message.map Char.toLower)

/-- The difference block of a message about hydration. -/
def diff? (message : String) : Option String :=
  let found := block (lines message.toList)
  if mentions message.toList ∧ found ≠ [] then
    some (String.ofList (joinLines (found.map trimEnd)))
  else none

end ErrorOrigin.Hydration
