import ErrorOrigin.Text.Blank
import ErrorOrigin.Text.Lines

/-!
# Snippets

The lines of a source text around the line of an error.
-/

namespace ErrorOrigin

open Text

structure Snippet where
  text : String
  /-- The number of the first line, counted from one. -/
  startLine : Nat
  /-- The number of the line the error is on. -/
  errorLine : Nat
deriving DecidableEq, Repr

namespace Snippet

/-- The lines at most `context` away from the given one, if the text has that line. -/
def cut? (source : String) (line context : Nat) : Option Snippet :=
  let ls := lines source.toList
  if 1 ≤ line ∧ line ≤ ls.length then
    let start := max 1 (line - context)
    let stop := min ls.length (line + context)
    let window := (ls.drop (start - 1)).take (stop + 1 - start)
    some ⟨String.ofList (joinLines window), start, line⟩
  else none

/-- Whether there is anything to see. -/
def shows (s : Snippet) : Bool :=
  Text.shows s.text.toList

end Snippet

end ErrorOrigin
