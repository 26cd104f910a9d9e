import ErrorOrigin.Position

/-!
# Stack frames

A frame as a trace shows it.  Every part of it may be missing, and a line or a column that is not
positive counts as unknown, so a frame has a position only when all three parts are usable.
-/

namespace ErrorOrigin.Stack

structure Frame where
  file : Option String := none
  line : Option Int := none
  column : Option Int := none
  function : Option String := none
deriving DecidableEq, Repr

namespace Frame

/-- The greatest line and the greatest column a frame can show. -/
def greatest : Nat := 9223372036854775807

def position? (f : Frame) : Option Position := do
  Position.usable? (← f.file) (← f.line) (← f.column)

/-- The frame moved to a position, its function kept. -/
def moveTo (f : Frame) (p : Position) : Frame :=
  { f with file := some p.file, line := some p.line, column := some p.column }

end Frame

/-- The first position that a frame of the stack has. -/
def firstPosition? (frames : List Frame) : Option Position :=
  frames.findSome? Frame.position?

/-- The line above the frames. -/
structure Header where
  name : String
  message : String
deriving DecidableEq, Repr

def Header.write (h : Header) : String :=
  if h.message = "" then h.name else h.name ++ ": " ++ h.message

end ErrorOrigin.Stack
