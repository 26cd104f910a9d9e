import ErrorOrigin.Highlight.Basic
import ErrorOrigin.Position
import ErrorOrigin.Text.Lines

/-!
# HTML markup

Each line of the code is a `span` with its number.  The five characters that mean something in
HTML are written as entities, so neither code nor theme names add markup of their own.  Themes are
named on the `pre` element and left to a stylesheet.
-/

namespace ErrorOrigin.Html

open Text

def escapeChar (c : Char) : List Char :=
  if c = '&' then "&amp;".toList
  else if c = '<' then "&lt;".toList
  else if c = '>' then "&gt;".toList
  else if c = '"' then "&quot;".toList
  else if c = '\'' then "&#39;".toList
  else [c]

def escape (s : List Char) : String :=
  String.ofList (s.flatMap escapeChar)

def opening (options : RenderOptions) : String :=
  "<pre class=\"shiki shiki-themes " ++ escape options.themes.light.toList ++ " " ++
    escape options.themes.dark.toList ++ "\" data-lang=\"" ++ options.language.name ++
    "\" tabindex=\"0\"><code>"

def closing : String := "</code></pre>"

/-- The number of a line that is `offset` lines below the first. -/
def lineNumber (startLine offset : Nat) : Nat :=
  min (startLine + offset) Position.greatest

def writeLine (number : Nat) (marked : Bool) (line : List Char) : String :=
  "<span class=\"" ++ (if marked then "line highlighted error" else "line") ++ "\" data-line=\"" ++
    toString number ++ "\">" ++ escape line ++ "</span>"

def render (code : String) (options : RenderOptions) : String :=
  let spans := (lines code.toList).zipIdx.map fun (line, offset) =>
    let number := lineNumber options.startLine offset
    writeLine number (options.markedLine = some number) line
  opening options ++ String.intercalate "\n" spans ++ closing

/-- The highlighter that renders HTML.  Its state is the list of languages loaded, besides plain
text, which is always there. -/
def factory : HighlighterFactory (List Language) where
  load language loaded := (.ok (), language :: loaded)
  render code options loaded :=
    if options.language = .text ∨ options.language ∈ loaded then (.ok (render code options), loaded)
    else (.error (.unsupportedLanguage options.language.name), loaded)
  create _ themes :=
    if themes.light = "" ∨ themes.dark = "" then .error (.create "theme names must not be empty")
    else .ok []

end ErrorOrigin.Html
