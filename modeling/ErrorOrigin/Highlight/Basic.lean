import ErrorOrigin.Highlight.Language

/-!
# Highlighters

A highlighter turns code into markup.  It is a machine: loading a language and rendering a text
may each fail and may each change its state.  A factory makes highlighters and is told the number
of its attempt, for an attempt that failed may be repeated.
-/

namespace ErrorOrigin

inductive HighlightError where
  | unsupportedLanguage (name : String)
  | create (reason : String)
  | render (reason : String)
deriving DecidableEq, Repr

def HighlightError.message : HighlightError → String
  | .unsupportedLanguage name => "language `" ++ name ++ "` is not supported by this highlighter"
  | .create reason => "failed to create highlighter: " ++ reason
  | .render reason => "failed to render code frame: " ++ reason

structure Themes where
  light : String := "github-light"
  dark : String := "github-dark"
deriving DecidableEq, Repr

/-- How a text is to be rendered. -/
structure RenderOptions where
  language : Language
  themes : Themes
  /-- The number of the first line. -/
  startLine : Nat
  /-- The number of the line to mark. -/
  markedLine : Option Nat
deriving DecidableEq, Repr

/-- What highlighters with states in `σ` do. -/
structure Highlighter (σ : Type) where
  load : Language → σ → Except HighlightError Unit × σ
  render : String → RenderOptions → σ → Except HighlightError String × σ

structure HighlighterFactory (σ : Type) extends Highlighter σ where
  create : (attempt : Nat) → Themes → Except HighlightError σ

namespace HighlighterFactory

/-- The factory whose first attempts fail. -/
def failingFirst (f : HighlighterFactory σ) (count : Nat) : HighlighterFactory σ where
  load := f.load
  render := f.render
  create attempt themes :=
    if attempt < count then .error (.create ("attempt " ++ toString attempt))
    else f.create attempt themes

/-- The factory whose highlighters refuse to load some languages and to render some. -/
def refusing (f : HighlighterFactory σ) (loads renders : List Language) :
    HighlighterFactory σ where
  load language s :=
    if language ∈ loads then (.error (.unsupportedLanguage language.name), s)
    else f.load language s
  render code options s :=
    if options.language ∈ renders then (.error (.render ("no " ++ options.language.name)), s)
    else f.render code options s
  create := f.create

end HighlighterFactory

end ErrorOrigin
