import ErrorOrigin.Highlight.Cache
import ErrorOrigin.Snippet

/-!
# Code frames

The markup of a snippet with the line of the error marked.  A frame loads its own language only, so
trouble with one frame leaves the other alone.
-/

namespace ErrorOrigin

/-- A snippet to render, if there is one, and its language. -/
structure FrameRequest where
  snippet : Option Snippet
  language : Language
deriving DecidableEq, Repr

def FrameRequest.forPath (path : String) (snippet : Option Snippet) : FrameRequest :=
  ⟨snippet, Language.ofPath path⟩

/-- The markup of the authored and of the compiled snippet, as far as there is any. -/
structure CodeFrames where
  authored : Option String
  compiled : Option String
deriving DecidableEq, Repr

namespace HighlighterCache

variable {σ : Type}

/-- One frame; nothing if there is nothing to show or the highlighter fails. -/
def frame (c : HighlighterCache σ) (request : FrameRequest) :
    Option String × HighlighterCache σ :=
  match request.snippet.filter Snippet.shows with
  | none => (none, c)
  | some snippet =>
    match c.get [request.language] with
    | (.error _, c) => (none, c)
    | (.ok _, c) =>
      let (outcome, c) :=
        c.render snippet.text request.language snippet.startLine (some snippet.errorLine)
      (outcome.toOption, c)

/-- Both frames, the authored one first. -/
def frames (c : HighlighterCache σ) (authored compiled : FrameRequest) :
    CodeFrames × HighlighterCache σ :=
  let (authoredFrame, c) := c.frame authored
  let (compiledFrame, c) := c.frame compiled
  (⟨authoredFrame, compiledFrame⟩, c)

end HighlighterCache

end ErrorOrigin
