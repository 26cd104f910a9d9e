import ErrorOrigin.Json.Basic

/-!
# Reports

What is known about an error in the end.  Fields that could not be determined keep their default,
which is an empty text, zero, or nothing.
-/

namespace ErrorOrigin

structure Report where
  name : String := ""
  message : String := ""
  compiledFile : String := ""
  compiledLine : Nat := 0
  compiledColumn : Nat := 0
  authoredFile : String := ""
  authoredLine : Nat := 0
  authoredColumn : Nat := 0
  authoredSnippet : String := ""
  compiledSnippet : String := ""
  authoredFrame : Option String := none
  compiledFrame : Option String := none
  retracedStack : String := ""
  compiledStack : String := ""
  /-- How many records the incident has; more than one for an aggregate. -/
  errorCount : Nat := 0
  plugin : Option String := none
  fixPrompt : String := ""
deriving DecidableEq, Repr

/-- A report as an object; the plugin is left out if there is none. -/
def Report.toJson (r : Report) : Json :=
  .object
    ([("name", .string r.name), ("message", .string r.message),
      ("compiledFilePath", .string r.compiledFile), ("compiledLine", .nat r.compiledLine),
      ("compiledColumn", .nat r.compiledColumn), ("originalFilePath", .string r.authoredFile),
      ("originalLine", .nat r.authoredLine), ("originalColumn", .nat r.authoredColumn),
      ("originalSnippet", .string r.authoredSnippet),
      ("compiledSnippet", .string r.compiledSnippet),
      ("originalCodeFrameContent", .ofOption .string r.authoredFrame),
      ("compiledCodeFrameContent", .ofOption .string r.compiledFrame),
      ("originalStack", .string r.retracedStack), ("compiledStack", .string r.compiledStack),
      ("errorCount", .nat r.errorCount)] ++
      (r.plugin.map fun p => ("plugin", Json.string p)).toList ++
      [("fixPrompt", .string r.fixPrompt)])

end ErrorOrigin
