import ErrorOrigin.Json.Basic
import ErrorOrigin.Stack.Writer
import ErrorOrigin.Text.Blank
import ErrorOrigin.Text.Lines

/-!
# Incidents

What went wrong arrives in one of four shapes: a thrown error, an error that wraps its causes, a
list of compiler diagnostics, or something else that leaves only a message.  Whatever the shape,
an incident flattens into records, of which there is always at least one.
-/

namespace ErrorOrigin

open Text

/-- The name of an error that has none. -/
def defaultErrorName : String := "Error"

structure ThrownError where
  name : String
  message : String
  stack : Option String
deriving DecidableEq, Repr

/-- Where a diagnostic points; line and column are whatever the compiler said. -/
structure Diagnostic.Place where
  file : String
  line : Int
  column : Int
deriving DecidableEq, Repr

structure Diagnostic where
  message : String
  place : Option Diagnostic.Place
deriving DecidableEq, Repr

def Diagnostic.empty : Diagnostic := ⟨"", none⟩

inductive Incident where
  | single (error : ThrownError)
  | aggregate (error : ThrownError) (causes : List Incident)
  | diagnostics (list : List Diagnostic)
  | unknown (message : String)
deriving Repr

/-- The uniform view of an incident. -/
structure ErrorRecord where
  name : String
  message : String
  stack : Option String
deriving DecidableEq, Repr

namespace ErrorRecord

def ofThrown (e : ThrownError) : ErrorRecord :=
  ⟨e.name, e.message, e.stack⟩

/-- The lines of a text that show something, trimmed and joined by spaces. -/
def onOneLine (text : String) : String :=
  let shown := (lines text.toList).map trim |>.filter (· ≠ [])
  String.intercalate " " (shown.map String.ofList)

/-- A diagnostic's stack is the one frame it points at.  The message is put on the header line as
one line, so that nothing in it reads as a frame. -/
def ofDiagnostic (d : Diagnostic) : ErrorRecord where
  name := defaultErrorName
  message := d.message
  stack := d.place.map fun p =>
    (Stack.Header.mk defaultErrorName (onOneLine d.message)).write ++ "\n    at " ++ p.file ++
      ":" ++ toString p.line ++ ":" ++ toString p.column

def ofMessage (message : String) : ErrorRecord :=
  ⟨defaultErrorName, message, none⟩

def toJson (r : ErrorRecord) : Json :=
  .object ([("name", .string r.name), ("message", .string r.message)] ++
    (r.stack.map fun s => ("stack", Json.string s)).toList)

end ErrorRecord

namespace Incident

/-- The one record of an incident by itself, its causes left aside. -/
def record : Incident → ErrorRecord
  | .single e => .ofThrown e
  | .aggregate e _ => .ofThrown e
  | .diagnostics [] => .ofMessage ""
  | .diagnostics (d :: _) => .ofDiagnostic d
  | .unknown message => .ofMessage message

/-- A record for each direct cause and each diagnostic; of an incident without such parts, its
own. -/
def records : Incident → List ErrorRecord
  | .aggregate e [] => [.ofThrown e]
  | .aggregate _ causes => causes.map record
  | .diagnostics [] => [.ofMessage ""]
  | .diagnostics list => list.map .ofDiagnostic
  | .single e => [.ofThrown e]
  | .unknown message => [.ofMessage message]

theorem records_ne_nil (i : Incident) : i.records ≠ [] := by
  fun_cases records i <;> simp_all

end Incident

end ErrorOrigin
