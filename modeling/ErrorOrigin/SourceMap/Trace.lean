import ErrorOrigin.Position
import ErrorOrigin.SourceMap.Basic
import ErrorOrigin.SourceMap.Mappings

/-!
# Tracing positions

A position is traced by the last segment on its line that starts at or before it.
-/

namespace ErrorOrigin.SourceMap

/-- The segments by column, those of one column in the order of the text. -/
def byColumn (segments : List Segment) : List Segment :=
  segments.mergeSort fun a b => decide (a.column ≤ b.column)

/-- A map ready to be asked. -/
structure Trace where
  sources : List (Option String)
  names : List String
  lines : List (List Segment)
deriving DecidableEq, Repr

/-- Where a generated position comes from: the line counted from one, the column from zero. -/
structure Origin where
  source : String
  line : Nat
  column : Nat
  name : Option String
deriving DecidableEq, Repr

/-- Only version 3 can be traced. -/
def trace (m : SourceMap) : Except TraceError Trace :=
  if m.version ≠ 3 then .error (.unsupportedVersion m.version)
  else (decodeMappings m.mappings).map fun lines =>
    ⟨m.resolvedSources, m.names, lines.map byColumn⟩

/-- The entry of a list that an index names, if it names one. -/
def nth? (list : List α) (index : Int) : Option α :=
  index.toNat?.bind (list[·]?)

/-- The origin that a segment names, if its source is known and its coordinates can be reported. -/
def Anchor.origin? (a : Anchor) (sources : List (Option String)) (names : List String) :
    Option Origin := do
  let source ← (← nth? sources a.source)
  if 0 ≤ a.line ∧ a.line + 1 ≤ Position.greatest ∧ 0 ≤ a.column ∧ a.column ≤ Position.greatest then
    pure ⟨source, a.line.toNat + 1, a.column.toNat, a.name.bind (nth? names)⟩
  else none

/-- The origin of a generated position, its line counted from one and its column from zero. -/
def Trace.origin? (t : Trace) (line column : Nat) : Option Origin := do
  if line = 0 then none
  else
    let segments ← t.lines[line - 1]?
    let segment ← (segments.takeWhile fun s => s.column ≤ (column : Int)).getLast?
    (← segment.anchor).origin? t.sources t.names

end ErrorOrigin.SourceMap
