import ErrorOrigin.SourceMap.TraceError

/-!
# Mappings

Mappings list, line by line, the segments of the generated text and where each comes from.  They
are written as differences: the generated column to the segment before it on the line, the other
numbers to the last segment that had them, on whatever line.  Every running total has 64 bits.
-/

namespace ErrorOrigin.SourceMap

/-- Where a segment comes from, counted from zero. -/
structure Anchor where
  source : Int
  line : Int
  column : Int
  name : Option Int
deriving DecidableEq, Repr

structure Segment where
  column : Int
  anchor : Option Anchor
deriving DecidableEq, Repr

/-- The running totals that outlast a line. -/
structure Totals where
  source : Int
  line : Int
  column : Int
  name : Int
deriving DecidableEq, Repr

def Totals.zero : Totals := ⟨0, 0, 0, 0⟩

def fitsWord (n : Int) : Bool :=
  -9223372036854775808 ≤ n && n ≤ 9223372036854775807

/-- A running total moved on, as long as it fits. -/
def advance (line : Nat) (total delta : Int) : Except TraceError Int :=
  if fitsWord (total + delta) then .ok (total + delta) else .error (.overflow line)

/-- Where the next segment comes from, by the differences to the totals. -/
def Totals.next (line : Nat) (t : Totals) (source sourceLine column : Int) :
    Except TraceError Totals := do
  let source ← advance line t.source source
  let sourceLine ← advance line t.line sourceLine
  let column ← advance line t.column column
  pure ⟨source, sourceLine, column, t.name⟩

/-- The next segment of a line by its numbers, one, four or five. -/
def nextSegment (line : Nat) (t : Totals) (column : Int) (numbers : List Int) :
    Except TraceError (Segment × Totals) := do
  let column ← advance line column (numbers.headD 0)
  match numbers with
  | [_] => pure (⟨column, none⟩, t)
  | [_, source, sourceLine, sourceColumn] =>
    let t ← t.next line source sourceLine sourceColumn
    pure (⟨column, some ⟨t.source, t.line, t.column, none⟩⟩, t)
  | [_, source, sourceLine, sourceColumn, name] =>
    let t ← t.next line source sourceLine sourceColumn
    let name ← advance line t.name name
    pure (⟨column, some ⟨t.source, t.line, t.column, some name⟩⟩, { t with name })
  | numbers => .error (.invalidSegment numbers.length line)

/-- The segments of a line, in the order of the text. -/
def decodeSegments (line : Nat) (t : Totals) (column : Int) :
    List (List Char) → Except TraceError (List Segment × Totals)
  | [] => .ok ([], t)
  | text :: rest => do
    let numbers ← (Vlq.decode text).mapError (TraceError.ofFault line)
    let (segment, t) ← nextSegment line t column numbers
    let (segments, t) ← decodeSegments line t segment.column rest
    pure (segment :: segments, t)

/-- The segments of each line, from this line on. -/
def decodeLines (line : Nat) (t : Totals) :
    List (List Char) → Except TraceError (List (List Segment))
  | [] => .ok []
  | text :: rest => do
    let (segments, t) ← decodeSegments line t 0 ((text.splitOn ',').filter (· ≠ []))
    let lines ← decodeLines (line + 1) t rest
    pure (segments :: lines)

/-- The segments of each line, in the order of the text. -/
def decodeMappings (mappings : String) : Except TraceError (List (List Segment)) :=
  decodeLines 0 Totals.zero (mappings.toList.splitOn ';')

/-! ## Writing -/

/-- The numbers of a segment as differences, and the totals after it. -/
def Segment.numbers (t : Totals) (column : Int) (s : Segment) : List Int × Totals :=
  match s.anchor with
  | none => ([s.column - column], t)
  | some o =>
    ([s.column - column, o.source - t.source, o.line - t.line, o.column - t.column] ++
        (o.name.map (· - t.name)).toList,
      ⟨o.source, o.line, o.column, o.name.getD t.name⟩)

def encodeSegments (t : Totals) (column : Int) : List Segment → List (List Char) × Totals
  | [] => ([], t)
  | s :: rest =>
    let (numbers, t) := s.numbers t column
    let (texts, t) := encodeSegments t s.column rest
    (Vlq.encode numbers :: texts, t)

def encodeLines (t : Totals) : List (List Segment) → List (List Char)
  | [] => []
  | segments :: rest =>
    let (texts, t) := encodeSegments t 0 segments
    [','].intercalate texts :: encodeLines t rest

/-- The mappings of a table of segments, each line in the order given. -/
def encodeMappings (table : List (List Segment)) : String :=
  String.ofList ([';'].intercalate (encodeLines Totals.zero table))

end ErrorOrigin.SourceMap
