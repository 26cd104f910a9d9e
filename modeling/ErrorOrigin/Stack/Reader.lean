import ErrorOrigin.Stack.Frame
import ErrorOrigin.Text.Blank
import ErrorOrigin.Text.Cut
import ErrorOrigin.Text.Lines
import ErrorOrigin.Text.Numeral

/-!
# Reading stacks

Two dialects are read.  One writes `at function (place)` or `at place`, the other
`function@place`.  A place is a file with a line and a column, or with a line, or alone; it is
taken apart from the right, so colons in the file do no harm.  Lines that are no frames are passed
over.
-/

namespace ErrorOrigin.Stack

open Text

/-- The frame at a place: `file:line:column`, `file:line` or `file`. -/
def Frame.ofPlace (s : List Char) : Frame :=
  let read (t : List Char) : Option Int := (readNumeral? Frame.greatest t).map Int.ofNat
  match cutLast? ':' s with
  | none => { file := String.ofList s }
  | some (front, last) =>
    if ¬isNumeral last then { file := String.ofList s }
    else
      match cutLast? ':' front with
      | some (file, middle) =>
        if isNumeral middle then
          { file := String.ofList file, line := read middle, column := read last }
        else { file := String.ofList front, line := read last }
      | none => { file := String.ofList front, line := read last }

/-- The frame with a function, unless the function has no name. -/
def Frame.named (f : Frame) (function : List Char) : Frame :=
  if function = [] then f else { f with function := String.ofList function }

/-- The place in parentheses at the end of a text, and what stands before it. -/
def parenthesized? (s : List Char) : Option (List Char × List Char) :=
  if s.getLast? = some ')' then
    (cutText? [' ', '('] s).map fun (before, after) => (before, after.dropLast)
  else none

/-- A frame after the word `at`. -/
def Frame.ofCall? (s : List Char) : Option Frame :=
  if s = [] then none
  else
    match parenthesized? s with
    | some (function, place) => some ((Frame.ofPlace place).named (trim function))
    | none => some (Frame.ofPlace s)

/-- A frame `function@place`.  Only a place with a line and a function without blanks make one,
for an at sign is no rare thing in a message. -/
def Frame.ofMark? (s : List Char) : Option Frame := do
  let (function, place) ← cut? '@' s
  let f := Frame.ofPlace place
  if function.any isBlank ∨ f.line.isNone then none else pure (f.named function)

def Frame.ofLine? (line : List Char) : Option Frame :=
  let s := trim line
  match dropStart? ['a', 't', ' '] s with
  | some rest => Frame.ofCall? (trim rest)
  | none => Frame.ofMark? s

/-- The first frames of a stack, up to a limit. -/
def read (stack : String) (limit : Nat) : List Frame :=
  ((lines stack.toList).filterMap Frame.ofLine?).take limit

end ErrorOrigin.Stack
