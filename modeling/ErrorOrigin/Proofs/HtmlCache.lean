import ErrorOrigin.CodeFrame
import ErrorOrigin.Highlight.Html
import ErrorOrigin.Proofs.HighlighterCalls

/-!
# Caches of the HTML highlighter

A cache that takes a language for loaded will not load it again, so it must not be mistaken: its
highlighter has to know every language the cache has noted.  This holds of a fresh cache and every
call keeps it.  So rendering in a loaded language does not fail, and a frame fails only if no
highlighter can be made.
-/

namespace ErrorOrigin.HighlighterCache

/-- The cache makes highlighters of HTML, maybe not at every attempt, and the one it has knows the
languages that the cache has noted. -/
structure Knows (c : HighlighterCache (List Language)) : Prop where
  html : c.factory.toHighlighter = Html.factory.toHighlighter
  known : ∀ language ∈ c.loaded, ∃ h, c.live = some h ∧ language ∈ h.state

/-- The cache makes highlighters of HTML at every attempt that its themes allow for. -/
structure IsHtml (c : HighlighterCache (List Language)) : Prop extends Knows c where
  create : c.factory.create = Html.factory.create

/-- There is a highlighter, or the themes allow for one. -/
def IsReady (c : HighlighterCache (List Language)) : Prop :=
  c.live = none → c.themes.light ≠ "" ∧ c.themes.dark ≠ ""

variable {c c' : HighlighterCache (List Language)} {call : Call} {calls : List Call}

theorem knows_fresh {factory : HighlighterFactory (List Language)}
    (hhtml : factory.toHighlighter = Html.factory.toHighlighter) (themes : Themes) :
    (fresh factory themes).Knows :=
  ⟨hhtml, by simp [fresh]⟩

theorem isHtml_fresh (themes : Themes) : (fresh Html.factory themes).IsHtml :=
  ⟨knows_fresh rfl themes, rfl⟩

/-! ## Loading -/

theorem Knows.not_rejected (hc : c.Knows) (language : Language) (e : HighlightError) :
    ¬Makes c (.load language (.error e)) c' := by
  rintro (_ | _ | ⟨hlive, hnew, hload⟩)
  rw [hc.html] at hload
  cases hload

theorem Knows.step (hc : c.Knows) (hcall : Makes c call c') : c'.Knows := by
  refine ⟨by rw [hcall.growsTo.factory, hc.html], ?_⟩
  intro language hlanguage
  cases hcall with
  | failed hlive hcreate => exact hc.known language hlanguage
  | created hlive hcreate =>
      -- nothing is noted before there is a highlighter, so the new one may know nothing
      obtain ⟨h, hsome, -⟩ := hc.known language hlanguage
      rw [hlive] at hsome
      cases hsome
  | rejected hlive hnew hload => exact absurd (.rejected hlive hnew hload) (hc.not_rejected _ _)
  | @loaded h added state hlive hnew hload =>
      rw [hc.html] at hload
      obtain rfl : added :: h.state = state := (Prod.mk.inj hload).2
      refine ⟨_, rfl, ?_⟩
      rcases List.mem_cons.mp hlanguage with rfl | hnoted
      · exact List.mem_cons_self
      · obtain ⟨h', hsome, hknown⟩ := hc.known language hnoted
        rw [hlive] at hsome
        cases hsome
        exact List.mem_cons_of_mem added hknown

theorem Knows.steps (hc : c.Knows) (hcalls : MakesAll c calls c') : c'.Knows := by
  induction hcalls with
  | nil c => exact hc
  | cons hcall _ ih => exact ih (hc.step hcall)

theorem IsHtml.steps (hc : c.IsHtml) (hcalls : MakesAll c calls c') : c'.IsHtml :=
  ⟨hc.toKnows.steps hcalls, by rw [hcalls.growsTo.factory, hc.create]⟩

theorem IsHtml.get_ok (hc : c.IsHtml) (hready : c.IsReady) (languages : List Language) :
    ∃ n, (c.get languages).1 = .ok n := by
  cases c.ends languages with
  | failed e hlive hcreate =>
      obtain ⟨hlight, hdark⟩ := hready hlive
      rw [hc.create] at hcreate
      simp [Html.factory, hlight, hdark] at hcreate
  | served calls c' hserves =>
      obtain ⟨h, -, hget⟩ := hserves.get_eq
      exact ⟨h.number, by rw [hget]⟩
  | stopped before language rest calls c' e c'' hsplit hserves hstops =>
      have hknows := hc.toKnows.steps hserves.made
      exact absurd hstops.1 (hknows.not_rejected language e)

/-! ## Frames -/

/-- Rendering in a loaded language does not fail and leaves all as it is. -/
theorem Knows.render {h : LiveHighlighter (List Language)} (hc : c.Knows) (hlive : c.live = some h)
    (code : String) (options : RenderOptions) (hloaded : options.language ∈ c.loaded) :
    c.factory.render code options h.state = (.ok (Html.render code options), h.state) := by
  obtain ⟨h', hsome, hknown⟩ := hc.known options.language hloaded
  obtain rfl : h = h' := Option.some.inj (hlive.symm.trans hsome)
  rw [hc.html]
  simp [Html.factory, hknown]

theorem Knows.render_eq {h : LiveHighlighter (List Language)} (hc : c.Knows)
    (hlive : c.live = some h) {language : Language} (hloaded : language ∈ c.loaded) (code : String)
    (startLine : Nat) (marked : Option Nat) :
    HighlighterCache.render c code language startLine marked =
      (.ok (Html.render code ⟨language, c.themes, startLine, marked⟩), c) := by
  have hrender := hc.render hlive code ⟨language, c.themes, startLine, marked⟩ hloaded
  rw [HighlighterCache.render, hlive]
  simp only [hrender, ← hlive]

def htmlOf (themes : Themes) (request : FrameRequest) : Option String :=
  (request.snippet.filter Snippet.shows).map fun snippet =>
    Html.render snippet.text
      ⟨request.language, themes, snippet.startLine, some snippet.errorLine⟩

theorem IsHtml.frame (hc : c.IsHtml) (hready : c.IsReady) (request : FrameRequest) :
    ∃ c', c.frame request = (htmlOf c.themes request, c') ∧ c'.IsHtml ∧ c'.IsReady ∧
      c'.themes = c.themes := by
  rw [HighlighterCache.frame, htmlOf]
  cases request.snippet.filter Snippet.shows with
  | none => exact ⟨c, rfl, hc, hready, rfl⟩
  | some snippet =>
      obtain ⟨n, hok⟩ := hc.get_ok hready [request.language]
      obtain ⟨hserves, h, hlive, -⟩ := serves_of_get_ok hok
      have hhtml := hc.steps hserves.made
      have hthemes := hserves.made.growsTo.themes
      have hrender := hhtml.toKnows.render_eq hlive (hserves.loaded List.mem_cons_self)
        snippet.text snippet.startLine (some snippet.errorLine)
      have hget : c.get [request.language] = (.ok n, (c.get [request.language]).2) :=
        Prod.ext hok rfl
      refine ⟨(c.get [request.language]).2, ?_, hhtml, fun hnone => by simp [hnone] at hlive,
        hthemes⟩
      rw [hthemes] at hrender
      simp only
      rw [hget]
      simp only [hrender]
      rfl

theorem IsHtml.frames (hc : c.IsHtml) (hready : c.IsReady) (authored compiled : FrameRequest) :
    (c.frames authored compiled).1 = ⟨htmlOf c.themes authored, htmlOf c.themes compiled⟩ := by
  obtain ⟨c', hauthored, hhtml, hready', hthemes⟩ := hc.frame hready authored
  obtain ⟨c'', hcompiled, -⟩ := hhtml.frame hready' compiled
  rw [HighlighterCache.frames]
  simp only [hauthored, hcompiled, hthemes]

end ErrorOrigin.HighlighterCache
