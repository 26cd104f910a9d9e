import ErrorOrigin.Highlight.Basic

/-!
# The highlighter cache

A cache makes its highlighter when it is first needed and keeps it from then on.  A failed attempt
is not kept; the next request tries again.  Languages are loaded as they are requested, each until
it is loaded once.
-/

namespace ErrorOrigin

/-- A highlighter that exists, known by the number of the attempt that made it. -/
structure LiveHighlighter (σ : Type) where
  number : Nat
  state : σ
deriving DecidableEq, Repr

structure HighlighterCache (σ : Type) where
  factory : HighlighterFactory σ
  themes : Themes
  /-- How often the factory was asked for a highlighter. -/
  attempts : Nat := 0
  live : Option (LiveHighlighter σ) := none
  loaded : List Language := []

namespace HighlighterCache

variable {σ : Type}

def isInitialized (c : HighlighterCache σ) : Bool :=
  c.live.isSome

/-- The highlighter, made now if there is none. -/
def ensure (c : HighlighterCache σ) :
    Except HighlightError (LiveHighlighter σ) × HighlighterCache σ :=
  match c.live with
  | some h => (.ok h, c)
  | none =>
    match c.factory.create c.attempts c.themes with
    | .error e => (.error e, { c with attempts := c.attempts + 1 })
    | .ok state =>
      let h : LiveHighlighter σ := ⟨c.attempts, state⟩
      (.ok h, { c with attempts := c.attempts + 1, live := some h })

/-- Load the languages that are not loaded yet, up to the first that is refused. -/
def loadAll (h : LiveHighlighter σ) (c : HighlighterCache σ) :
    List Language → Except HighlightError Nat × HighlighterCache σ
  | [] => (.ok h.number, c)
  | language :: rest =>
    if language ∈ c.loaded then loadAll h c rest
    else
      let (outcome, state) := c.factory.load language h.state
      let h := { h with state }
      let c := { c with live := some h }
      match outcome with
      | .error e => (.error e, c)
      | .ok () => loadAll h { c with loaded := language :: c.loaded } rest

/-- The number of the highlighter, with these languages loaded. -/
def get (c : HighlighterCache σ) (languages : List Language) :
    Except HighlightError Nat × HighlighterCache σ :=
  match c.ensure with
  | (.error e, c) => (.error e, c)
  | (.ok h, c) => loadAll h c languages

/-- Render with the highlighter that is there. -/
def render (c : HighlighterCache σ) (code : String) (language : Language) (startLine : Nat)
    (markedLine : Option Nat) : Except HighlightError String × HighlighterCache σ :=
  match c.live with
  | none => (.error (.render "no highlighter"), c)
  | some h =>
    let (outcome, state) :=
      c.factory.render code ⟨language, c.themes, startLine, markedLine⟩ h.state
    (outcome, { c with live := some { h with state } })

end HighlighterCache

end ErrorOrigin
