import ErrorOrigin.Position
import ErrorOrigin.SourceMap.Json

/-!
# Pipeline hints

What the build pipeline itself says about an error: where it is, and which plugin met it.
-/

namespace ErrorOrigin

open Json

structure PipelineHint where
  file : Option String
  line : Option Nat
  column : Option Nat
  plugin : Option String
deriving DecidableEq, Repr

namespace PipelineHint

def position? (h : PipelineHint) : Option Position := do
  Position.usable? (← h.file) (← h.line) (← h.column)

/-- A hint is an object or an array of at most four parts; any part may be missing or `null`. -/
def ofJson? (j : Json) : Option PipelineHint := do
  let (file, line, column, plugin) ←
    match j with
    | .object members =>
      some (lookup? "file" members, lookup? "line" members, lookup? "column" members,
        lookup? "plugin" members)
    | .array parts =>
      if 4 < parts.length then none else some (parts[0]?, parts[1]?, parts[2]?, parts[3]?)
    | _ => none
  let field {α : Type} (read? : Json → Option α) (j : Option Json) : Option (Option α) :=
    SourceMap.optional none (SourceMap.nullable read?) j
  pure
    { file := ← field str? file
      line := ← field (nat? Position.greatest) line
      column := ← field (nat? Position.greatest) column
      plugin := ← field str? plugin }

end PipelineHint

end ErrorOrigin
