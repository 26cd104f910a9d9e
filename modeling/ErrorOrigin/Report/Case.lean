import ErrorOrigin.Address.Reader
import ErrorOrigin.Framework
import ErrorOrigin.Incident.Basic
import ErrorOrigin.PipelineHint
import ErrorOrigin.Report.Basic
import ErrorOrigin.Settings
import ErrorOrigin.Stack.Reader

/-!
# Cases

A case is one record of an incident, selected for a report, together with all that the request
says about it.  What a case alone tells, without a registry, is settled here: the opening of the
report, and the compiled position with the query that other errors show for the same file.
-/

namespace ErrorOrigin

/-- All that is asked about an incident besides the incident. -/
structure ReportRequest where
  /-- Which record to report on; the last one if there are fewer. -/
  errorIndex : Nat := 0
  /-- What framework the project uses. -/
  framework : Option String := none
  hint : Option PipelineHint := none
  /-- The whole chain of causes, to be searched for queries. -/
  allErrors : List Incident := []

structure Case where
  records : List ErrorRecord
  index : Fin records.length
  /-- The frames of the selected record. -/
  frames : List Stack.Frame
  request : ReportRequest

namespace Case

def ofIncident (settings : Settings) (incident : Incident) (request : ReportRequest) : Case :=
  let records := incident.records
  have : 0 < records.length := List.length_pos_iff.mpr incident.records_ne_nil
  let index : Fin records.length :=
    ⟨min request.errorIndex (records.length - 1), by omega⟩
  { records, index, request
    frames := Stack.read ((records.get index).stack.getD "") settings.frameLimit }

/-- The selected record. -/
def primary (c : Case) : ErrorRecord :=
  c.records.get c.index

def stack (c : Case) : String :=
  c.primary.stack.getD ""

def header (c : Case) : Stack.Header :=
  ⟨c.primary.name, c.primary.message⟩

/-- What the record itself says. -/
def opening (c : Case) : Report where
  name := c.primary.name
  message := c.primary.message
  compiledStack := Stack.write c.frames (some c.header)
  errorCount := c.records.length
  plugin := c.request.hint.bind (·.plugin)

/-- The position the framework's message points at, which is one in the user's file. -/
def adapted? (c : Case) : Option Position := do
  (← Framework.ofHint? (← c.request.framework)).position? c.primary.message

/-- The position the pipeline reports, else that of the first frame with one. -/
def reported? (c : Case) : Option Position :=
  (c.request.hint.bind PipelineHint.position?).or (Stack.firstPosition? c.frames)

/-! ## Borrowed queries -/

/-- The stacks of the other records and of the whole chain, in order. -/
def otherStacks (c : Case) : List String :=
  (c.records.eraseIdx c.index ++ c.request.allErrors.flatMap Incident.records).filterMap (·.stack)

/-- The path by which a file is recognised in other addresses. -/
def ownPath? [DomainForms] (file : String) : Option String :=
  if Address.claimsWeb file then (Address.web? file).map Address.path else some file

/-- The query of a frame whose address is that of the same file. -/
def queryOfFrame? [DomainForms] (own : String) (f : Stack.Frame) : Option String := do
  let file ← f.file
  let a ← if Address.claimsWeb file then Address.web? file else none
  let query ← a.search?
  let path := a.path.toList
  if own.toList = path ∨ path.isSuffixOf own.toList ∨ own.toList.isSuffixOf path then pure query
  else none

/-- The first query that another stack shows for this path. -/
def borrowedQuery? [DomainForms] (settings : Settings) (others : List String) (own : String) :
    Option String :=
  others.findSome? fun stack =>
    (Stack.read stack settings.frameLimit).findSome? (queryOfFrame? own)

/-- The file with a borrowed query, unless it has a query or is too short to be recognised. -/
def withQuery [DomainForms] (settings : Settings) (others : List String) (file : String) : String :=
  let borrowed : Option String := do
    let own ← ownPath? file
    if own.utf8ByteSize < settings.scoring.leastSubstring then none
    else borrowedQuery? settings others own
  if '?' ∈ file.toList then file
  else borrowed.elim file (file ++ "?" ++ ·)

/-- The compiled position to report, if there is one. -/
def compiled? [DomainForms] (settings : Settings) (c : Case) : Option Position :=
  (c.adapted?.or c.reported?).map fun p =>
    { p with file := withQuery settings c.otherStacks p.file }

end Case

end ErrorOrigin
