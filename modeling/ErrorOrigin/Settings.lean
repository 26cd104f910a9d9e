import ErrorOrigin.Text.Cut

/-!
# Settings

How well a path matches a candidate key, and how much of everything a report takes in.
-/

namespace ErrorOrigin

open Text

/-- What matches are worth. -/
structure Scoring where
  /-- For a path that equals the candidate. -/
  exact : Nat := 100
  /-- For a path that contains the candidate or lies in it. -/
  substring : Nat := 50
  /-- How many bytes both must have for one to count as a part of the other. -/
  leastSubstring : Nat := 3
deriving DecidableEq, Repr

/-- What the match of a path with a candidate is worth; zero is no match. -/
def Scoring.score (s : Scoring) (path candidate : String) : Nat :=
  if path = "" ∨ candidate = "" then 0
  else if path = candidate then s.exact
  else if path.utf8ByteSize < s.leastSubstring ∨ candidate.utf8ByteSize < s.leastSubstring then 0
  else if occurs candidate.toList path.toList || occurs path.toList candidate.toList then
    s.substring
  else 0

structure Settings where
  /-- How many frames of a stack are kept. -/
  frameLimit : Nat := 50
  /-- How many lines a code frame shows on either side of the error. -/
  snippetContext : Nat := 2
  /-- How many lines a prompt shows on either side of the error, if it has to cut them itself. -/
  promptContext : Nat := 5
  scoring : Scoring := {}
  /-- Where the server mounts files from outside the project. -/
  mount : String := "/@fs"
deriving DecidableEq, Repr

/-- Settings under which only equal paths match. -/
def Settings.exactOnly : Settings where
  scoring := { substring := 0 }

end ErrorOrigin
