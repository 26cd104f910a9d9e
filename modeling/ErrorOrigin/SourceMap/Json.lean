import ErrorOrigin.Json.Basic
import ErrorOrigin.SourceMap.Basic

/-!
# Source maps as JSON

A map is an object with seven known keys or an array of the seven values in order.  Every value
may be missing; a known key may not be given twice, nor may the array have more parts.  The file,
the root, the contents and single entries of the sources may be `null`, and nothing else may.
-/

namespace ErrorOrigin.SourceMap

open ErrorOrigin.Json

def keys : List String :=
  ["version", "file", "sourceRoot", "sources", "sourcesContent", "names", "mappings"]

/-- The value under a key, if any; nothing at all if there are several. -/
def only? (members : List (String × Json)) (key : String) : Option (Option Json) :=
  match members.filter (·.1 = key) with
  | [] => some none
  | [(_, j)] => some (some j)
  | _ => none

/-- The seven values, each of which may be missing. -/
def slots? : Json → Option (List (Option Json))
  | .object members => keys.mapM (only? members)
  | .array parts =>
    if keys.length < parts.length then none
    else some (parts.map some ++ List.replicate (keys.length - parts.length) none)
  | _ => none

/-- A value that may be missing, with what it then is. -/
def optional (missing : α) (read? : Json → Option α) : Option Json → Option α
  | none => some missing
  | some j => read? j

/-- A value that may be `null`. -/
def nullable (read? : Json → Option α) : Json → Option (Option α)
  | .null => some none
  | j => (read? j).map some

def listOf (read? : Json → Option α) (j : Json) : Option (List α) :=
  j.items?.bind (·.mapM read?)

def version? (j : Json) : Option UInt32 :=
  (j.nat? 4294967295).map UInt32.ofNat

def ofJson? (j : Json) : Option SourceMap := do
  match ← slots? j with
  | [version, file, sourceRoot, sources, sourcesContent, names, mappings] =>
    pure
      { version := ← optional 0 version? version
        file := ← optional none (nullable str?) file
        sourceRoot := ← optional none (nullable str?) sourceRoot
        sources := ← optional [] (listOf (nullable str?)) sources
        sourcesContent := ← optional none (nullable (listOf (nullable str?))) sourcesContent
        names := ← optional [] (listOf str?) names
        mappings := ← optional "" str? mappings }
  | _ => none

def textsToJson (list : List (Option String)) : Json :=
  .array (list.map (ofOption .string))

/-- A map as an object; what is absent is left out. -/
def toJson (m : SourceMap) : Json :=
  let present (key : String) (j : Option Json) : List (String × Json) := (j.map (key, ·)).toList
  .object
    ([("version", .nat m.version.toNat)] ++
      present "file" (m.file.map .string) ++
      present "sourceRoot" (m.sourceRoot.map .string) ++
      [("sources", textsToJson m.sources)] ++
      present "sourcesContent" (m.sourcesContent.map textsToJson) ++
      [("names", .array (m.names.map .string)), ("mappings", .string m.mappings)])

/-- A map as an array of its seven values; what is absent is `null`. -/
def toJsonArray (m : SourceMap) : Json :=
  .array
    [.nat m.version.toNat, ofOption .string m.file, ofOption .string m.sourceRoot,
      textsToJson m.sources, ofOption textsToJson m.sourcesContent,
      .array (m.names.map .string), .string m.mappings]

end ErrorOrigin.SourceMap
