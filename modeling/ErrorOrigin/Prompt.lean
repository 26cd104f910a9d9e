import ErrorOrigin.Highlight.Language
import ErrorOrigin.Incident.Basic
import ErrorOrigin.Snippet

/-!
# Prompts for a fix

A request in words to mend an error, with the best piece of code at hand: the authored snippet, else
a window of the compiled text, else a line that describes the error.
-/

namespace ErrorOrigin

/-- What a prompt says about the place of an error. -/
structure PromptContext where
  file : String
  language : Language
  line : Nat
  snippet : String
deriving DecidableEq, Repr

abbrev PromptGenerator := ErrorRecord → PromptContext → String

namespace PromptGenerator

/-- The error, where it happened, and the code around it. -/
def markdown : PromptGenerator := fun error context =>
  let place :=
    if context.file = "" then ""
    else " in `" ++ context.file ++ "` at line " ++ toString context.line
  let summary := (Stack.Header.mk error.name error.message).write
  "Fix the following " ++ error.name ++ place ++ ".\n\n" ++ summary ++ "\n\n```" ++
    context.language.name ++ "\n" ++ context.snippet ++ "\n```\n"

/-- All that is known, between bars. -/
def terse : PromptGenerator := fun error context =>
  String.intercalate "|"
    [error.name, error.message, context.file, toString context.line, context.language.name,
      context.snippet]

end PromptGenerator

/-- Code a prompt can show, the best first. -/
structure PromptSnippets where
  authored : Option Snippet := none
  sourceText : Option String := none
  /-- The line of the source text to show. -/
  line : Nat := 0
  contextLines : Nat := 0
deriving DecidableEq, Repr

namespace Prompt

/-- The code to show, if any of it shows something. -/
def bestSnippet? (s : PromptSnippets) : Option String :=
  match s.authored.filter Snippet.shows with
  | some snippet => some snippet.text
  | none => do
    let window ← Snippet.cut? (← s.sourceText) s.line s.contextLines
    if window.shows then pure window.text else none

/-- An error in one line. -/
def describe (error : ErrorRecord) (file : String) (line : Nat) : String :=
  (Stack.Header.mk error.name error.message).write ++
    if file = "" then "" else " (at " ++ file ++ ":" ++ toString line ++ ")"

def build (generator : PromptGenerator) (error : ErrorRecord) (file : String) (line : Nat)
    (language : Language) (snippets : PromptSnippets) : String :=
  generator error
    { file, language, line
      snippet := (bestSnippet? snippets).getD (describe error file line) }

end Prompt

end ErrorOrigin
