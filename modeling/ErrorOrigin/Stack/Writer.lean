import ErrorOrigin.Stack.Frame

/-!
# Writing stacks

One line for each frame, `    at function (file:line:column)` or `    at file:line:column`, below
the header.  A column without a line is not written.
-/

namespace ErrorOrigin.Stack

def writePlace (file : Option String) (line column : Option Int) : String :=
  file.getD "<anonymous>" ++
    match line with
    | some l => ":" ++ toString l ++ column.elim "" (":" ++ toString ·)
    | none => ""

def Frame.write (f : Frame) : String :=
  let place := writePlace f.file f.line f.column
  match f.function with
  | some function => "    at " ++ function ++ " (" ++ place ++ ")"
  | none => "    at " ++ place

def write (frames : List Frame) (header : Option Header) : String :=
  String.intercalate "\n" ((header.map Header.write).toList ++ frames.map Frame.write)

end ErrorOrigin.Stack
