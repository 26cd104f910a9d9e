/-!
# Lines

A line ends at a line feed; a carriage return right before that line feed belongs to the line break.
Text after the last line feed is a line of its own only when it is not empty, and then keeps every
character.
-/

namespace ErrorOrigin.Text

/-- Without one carriage return at the end. -/
def dropReturn (s : List Char) : List Char :=
  if s.getLast? = some '\r' then s.dropLast else s

def lines (s : List Char) : List (List Char) :=
  let pieces := s.splitOn '\n'
  pieces.dropLast.map dropReturn ++ pieces.getLast?.toList.filter (· ≠ [])

@[simp] theorem lines_nil : lines [] = [] := rfl

/-- Lines joined by line feeds, without one at the end. -/
def joinLines (ls : List (List Char)) : List Char :=
  ['\n'].intercalate ls

end ErrorOrigin.Text
