import ErrorOrigin.Incident.Basic
import ErrorOrigin.Json.Writer

/-!
# Reading incidents

The shapes of an incident are tried in turn, and the first that fits is taken: a list of
diagnostics, an error with causes, a thrown error, a text, anything else.  A shape does not fit if
one of its parts is refused, so that what is inside of a value could change the shape of it.

A record is an object, or an array of no more parts than the record has fields.  A lenient field
counts as missing if it has the wrong type.
-/

namespace ErrorOrigin

open Json

namespace Json

/-- The fields of a record of this size, each by its place and its name. -/
def fields? (size : Nat) : Json → Option (Nat → String → Option Json)
  | .object members => some fun _ name => lookup? name members
  | .array parts => if size < parts.length then none else some fun place _ => parts[place]?
  | _ => none

def lenient (read? : Json → Option α) (field : Option Json) : Option α :=
  field.bind read?

/-- An integer of 64 bits. -/
def int64? : Json → Option Int :=
  int? (-9223372036854775808) 9223372036854775807

end Json

namespace Diagnostic

def Place.ofJson? (j : Json) : Option Place := do
  let field ← j.fields? 3
  let file ← (← field 0 "file").str?
  pure
    { file
      line := (lenient int64? (field 1 "line")).getD 0
      column := (lenient int64? (field 2 "column")).getD 0 }

/-- A diagnostic with the first of two texts that is there. -/
def ofJson? (j : Json) : Option Diagnostic := do
  let field ← j.fields? 3
  let message := lenient str? (field 0 "message")
  let text := lenient str? (field 1 "text")
  pure ⟨(message.or text).getD "", lenient Place.ofJson? (field 2 "location")⟩

/-- A part of a list of diagnostics: one of them, else anything, which says nothing. -/
def part? (j : Json) : Option Diagnostic :=
  ofJson? j <|> some .empty

end Diagnostic

/-- What is known of a thrown error. -/
structure ThrownError.Fields where
  name : Option String
  message : Option String
  stack : Option String

namespace ThrownError.Fields

def ofJson? (j : Json) : Option Fields := do
  let field ← j.fields? 3
  pure ⟨lenient str? (field 0 "name"), lenient str? (field 1 "message"),
    lenient str? (field 2 "stack")⟩

def isError (fields : Fields) : Bool :=
  fields.message.isSome || fields.stack.isSome

def toThrown (fields : Fields) : ThrownError :=
  ⟨fields.name.getD defaultErrorName, fields.message.getD "", fields.stack⟩

end ThrownError.Fields

namespace Incident

def diagnostics? (j : Json) : Option Incident := do
  pure (.diagnostics (← (← j.items?).mapM Diagnostic.part?))

def thrown? (j : Json) : Option Incident := do
  let fields ← ThrownError.Fields.ofJson? j
  pure (if fields.isError then .single fields.toThrown else .unknown "")

def text? (j : Json) : Option Incident :=
  j.str?.map .unknown

/-- Any value, with its text if it stands for something. -/
def other : Json → Incident
  | .null => .unknown ""
  | .meaningless => .unknown ""
  | j => .unknown j.render

mutual

/-- The first shape that fits. -/
def read? (j : Json) : Option Incident :=
  diagnostics? j <|>
    (match j with
    | .object members => do
      let fields ← ThrownError.Fields.ofJson? (.object members)
      pure (.aggregate fields.toThrown (← (readErrors? members).join))
    | _ => none) <|>
    thrown? j <|> text? j <|> some (other j)

/-- The incidents under the last key `errors`, if there is one and all of them are read. -/
def readErrors? : List (String × Json) → Option (Option (List Incident))
  | [] => none
  | (key, j) :: rest =>
    match readErrors? rest with
    | some found => some found
    | none => if key = "errors" then some (readItems? j) else none

def readItems? : Json → Option (List Incident)
  | .array items => readAll? items
  | _ => none

def readAll? : List Json → Option (List Incident)
  | [] => some []
  | j :: rest => do pure ((← read? j) :: (← readAll? rest))

end

def ofJson (j : Json) : Incident :=
  (read? j).getD (.unknown "")

end Incident

end ErrorOrigin
