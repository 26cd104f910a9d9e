import ErrorOrigin.CodeFrame
import ErrorOrigin.Highlight.Html
import ErrorOrigin.Proofs.HighlighterCalls
import Mathlib.Tactic

/-!
# Independent frames

Both code frames of a report are made with one cache, and each of them changes it.  The invariant
says that the highlighter has come to its state by loading every language the cache has noted.  All
use of the cache keeps it.  Where it holds, and loading and rendering end the same way each time, a
frame is settled by its own request.
-/

namespace ErrorOrigin

open Text

variable {σ : Type} {f : HighlighterFactory σ} {themes : Themes} {attempt : Nat}
  {loads : Language → Except HighlightError Unit}
  {renders : String → RenderOptions → Except HighlightError String}

namespace HighlighterFactory

/-- The states that the highlighter of an attempt can come to, with the languages that have been
loaded on the way. -/
inductive Reaches (f : HighlighterFactory σ) (themes : Themes) (attempt : Nat) :
    List Language → σ → Prop
  | created {state : σ} (hcreate : f.create attempt themes = .ok state) :
      Reaches f themes attempt [] state
  | loaded {known : List Language} {language : Language} {state state' : σ}
      (hreaches : Reaches f themes attempt known state)
      (hload : f.load language state = (.ok (), state')) :
      Reaches f themes attempt (language :: known) state'
  | rejected {known : List Language} {language : Language} {e : HighlightError} {state state' : σ}
      (hreaches : Reaches f themes attempt known state)
      (hload : f.load language state = (.error e, state')) :
      Reaches f themes attempt known state'
  | rendered {known : List Language} {state : σ}
      (hreaches : Reaches f themes attempt known state) (code : String) (options : RenderOptions) :
      Reaches f themes attempt known (f.render code options state).2

/-- The highlighter of an attempt has one outcome of loading for each language, and one of rendering
in a language that has been loaded for what is to be rendered. -/
structure IsSteady (f : HighlighterFactory σ) (themes : Themes) (attempt : Nat)
    (loads : Language → Except HighlightError Unit)
    (renders : String → RenderOptions → Except HighlightError String) : Prop where
  load : ∀ {known : List Language} {state : σ}, f.Reaches themes attempt known state →
    ∀ language, (f.load language state).1 = loads language
  render : ∀ {known : List Language} {state : σ}, f.Reaches themes attempt known state →
    ∀ code options, options.language ∈ known →
      (f.render code options state).1 = renders code options

theorem IsSteady.load_of_mem (hf : f.IsSteady themes attempt loads renders)
    {known : List Language} {state : σ} (hreaches : f.Reaches themes attempt known state)
    {language : Language} (hlanguage : language ∈ known) : loads language = .ok () := by
  induction hreaches with
  | created => exact absurd hlanguage List.not_mem_nil
  | loaded hreaches hload ih =>
      rcases List.mem_cons.mp hlanguage with rfl | hlanguage
      · rw [← hf.load hreaches, hload]
      · exact ih hlanguage
  | rejected _ _ ih => exact ih hlanguage
  | rendered _ _ _ ih => exact ih hlanguage

end HighlighterFactory

namespace Html

variable {refused plain : List Language}

theorem load_refusing (language : Language) (state : List Language) :
    (factory.refusing refused plain).load language state =
      if language ∈ refused then (.error (.unsupportedLanguage language.name), state)
      else (.ok (), language :: state) :=
  rfl

theorem render_refusing (code : String) (options : RenderOptions) (state : List Language) :
    (factory.refusing refused plain).render code options state =
      if options.language ∈ plain then (.error (.render ("no " ++ options.language.name)), state)
      else if options.language = .text ∨ options.language ∈ state then
        (.ok (render code options), state)
      else (.error (.unsupportedLanguage options.language.name), state) :=
  rfl

theorem subset_of_reaches_refusing {known state : List Language}
    (hreaches : (factory.refusing refused plain).Reaches themes attempt known state) :
    known ⊆ state := by
  induction hreaches with
  | created => exact List.nil_subset _
  | loaded _ hload ih =>
      rw [load_refusing] at hload
      split at hload <;> cases hload
      exact List.cons_subset_cons _ ih
  | rejected _ hload ih =>
      rw [load_refusing] at hload
      split at hload <;> cases hload
      exact ih
  | rendered _ code options ih =>
      rw [render_refusing]
      repeat' split
      all_goals exact ih

theorem refusing_isSteady (refused plain : List Language) (themes : Themes) (attempt : Nat) :
    (factory.refusing refused plain).IsSteady themes attempt
      (fun language => if language ∈ refused then .error (.unsupportedLanguage language.name)
        else .ok ())
      (fun code options => if options.language ∈ plain then
        .error (.render ("no " ++ options.language.name)) else .ok (render code options)) where
  load _ language := by
    rw [load_refusing]
    split <;> rfl
  render hreaches code options hlanguage := by
    have hknown : options.language = .text ∨ options.language ∈ _ :=
      .inr (subset_of_reaches_refusing hreaches hlanguage)
    rw [render_refusing, if_pos hknown]
    split <;> rfl

end Html

namespace HighlighterCache

variable {c c' : HighlighterCache σ} {h : LiveHighlighter σ} {call : Call}

/-! ## The use of a cache -/

/-- Further use makes the second cache of the first: requests of the cache, and calls of the
highlighter by those to whom it was given. -/
inductive Uses (c : HighlighterCache σ) : HighlighterCache σ → Prop
  | refl : Uses c c
  | get {c' : HighlighterCache σ} (huses : Uses c c') (languages : List Language) :
      Uses c (c'.get languages).2
  | load {c' : HighlighterCache σ} {h : LiveHighlighter σ} (huses : Uses c c')
      (hlive : c'.live = some h) (language : Language) :
      Uses c { c' with live := some { h with state := (c'.factory.load language h.state).2 } }
  | render {c' : HighlighterCache σ} {h : LiveHighlighter σ} (huses : Uses c c')
      (hlive : c'.live = some h) (code : String) (options : RenderOptions) :
      Uses c { c' with live := some { h with state := (c'.factory.render code options h.state).2 } }

theorem Uses.growsTo (huses : Uses c c') : c.GrowsTo c' := by
  induction huses with
  | refl => exact .refl c
  | get _ languages ih => exact ih.trans (get_makesAll _ languages).growsTo
  | load _ hlive language ih =>
      exact ih.trans ⟨rfl, rfl, List.Subset.refl _, by simp [hlive]⟩
  | render _ hlive code options ih =>
      exact ih.trans ⟨rfl, rfl, List.Subset.refl _, by simp [hlive]⟩

/-- The invariant: the cache is for the factory and the themes, and its highlighter has come to its
state by loading the languages that are noted, perhaps among others. -/
structure Tracks (f : HighlighterFactory σ) (themes : Themes) (c : HighlighterCache σ) : Prop where
  idle : c.live = none → c.loaded = []
  reached : ∀ h, c.live = some h →
    ∃ known, f.Reaches themes h.number known h.state ∧ c.loaded ⊆ known
  factory : c.factory = f
  themes : c.themes = themes

theorem tracks_fresh (f : HighlighterFactory σ) (themes : Themes) :
    Tracks f themes (fresh f themes) :=
  ⟨fun _ => rfl, by simp [fresh], rfl, rfl⟩

/-- The highlighter comes to another state, and more languages may be noted then. -/
theorem Tracks.moved (hc : Tracks f themes c) (hlive : c.live = some h) {state : σ}
    {loaded : List Language}
    (hmoved : ∀ known, f.Reaches themes h.number known h.state → c.loaded ⊆ known →
      ∃ known', f.Reaches themes h.number known' state ∧ loaded ⊆ known') :
    Tracks f themes { c with live := some { h with state }, loaded } := by
  obtain ⟨known, hreaches, hloaded⟩ := hc.reached h hlive
  refine ⟨by simp, ?_, hc.factory, hc.themes⟩
  rintro _ ⟨⟩
  exact hmoved known hreaches hloaded

theorem Tracks.load (hc : Tracks f themes c) (hlive : c.live = some h) (language : Language) :
    Tracks f themes
      { c with live := some { h with state := (c.factory.load language h.state).2 } } := by
  refine hc.moved hlive fun known hreaches hloaded => ?_
  rw [hc.factory]
  rcases hload : f.load language h.state with ⟨_ | ⟨⟩, state⟩
  · exact ⟨known, .rejected hreaches hload, hloaded⟩
  · exact ⟨language :: known, .loaded hreaches hload, List.subset_cons_of_subset _ hloaded⟩

theorem Tracks.render (hc : Tracks f themes c) (hlive : c.live = some h) (code : String)
    (options : RenderOptions) : Tracks f themes
      { c with live := some { h with state := (c.factory.render code options h.state).2 } } := by
  refine hc.moved hlive fun known hreaches hloaded => ⟨known, ?_, hloaded⟩
  rw [hc.factory]
  exact .rendered hreaches code options

theorem Tracks.step (hc : Tracks f themes c) (hcall : Makes c call c') : Tracks f themes c' := by
  cases hcall with
  | failed hlive hcreate =>
      exact ⟨hc.idle, hc.reached, hc.factory, hc.themes⟩
  | @created state hlive hcreate =>
      rw [hc.factory, hc.themes] at hcreate
      refine ⟨by simp, ?_, hc.factory, hc.themes⟩
      rintro _ ⟨⟩
      exact ⟨[], .created hcreate, by simp [hc.idle hlive]⟩
  | rejected hlive hnew hload =>
      rw [hc.factory] at hload
      exact hc.moved hlive fun known hreaches hloaded =>
        ⟨known, .rejected hreaches hload, hloaded⟩
  | @loaded h language state hlive hnew hload =>
      rw [hc.factory] at hload
      exact hc.moved hlive fun known hreaches hloaded =>
        ⟨language :: known, .loaded hreaches hload, List.cons_subset_cons language hloaded⟩

theorem Tracks.steps {calls : List Call} (hc : Tracks f themes c) (hcalls : MakesAll c calls c') :
    Tracks f themes c' := by
  induction hcalls with
  | nil c => exact hc
  | cons hcall _ ih => exact ih (hc.step hcall)

/-- The run lemma: whatever use is made of the cache keeps the invariant. -/
theorem Tracks.uses (hc : Tracks f themes c) (huses : Uses c c') : Tracks f themes c' := by
  induction huses with
  | refl => exact hc
  | get _ languages ih => exact ih.steps (get_makesAll _ languages)
  | load _ hlive language ih => exact ih.load hlive language
  | render _ hlive code options ih => exact ih.render hlive code options

/-! ## Frames in the making

A frame takes two turns: it asks the cache for the highlighter, and renders with it.  Between the
two the cache may serve others. -/

inductive Stage where
  | requested (request : FrameRequest)
  /-- The highlighter is there, for this language. -/
  | lent (language : Language) (snippet : Snippet)
  | made (frame : Option String)
deriving DecidableEq

def advance (c : HighlighterCache σ) : Stage → Stage × HighlighterCache σ
  | .requested request =>
    match request.snippet.filter Snippet.shows with
    | none => (.made none, c)
    | some snippet =>
      match c.get [request.language] with
      | (.error _, c) => (.made none, c)
      | (.ok _, c) => (.lent request.language snippet, c)
  | .lent language snippet =>
    let (outcome, c) := c.render snippet.text language snippet.startLine (some snippet.errorLine)
    (.made outcome.toOption, c)
  | .made frame => (.made frame, c)

theorem advance_twice (c : HighlighterCache σ) (request : FrameRequest) :
    (c.advance (.requested request)).2.advance (c.advance (.requested request)).1 =
      (.made (c.frame request).1, (c.frame request).2) := by
  rw [advance, frame]
  cases request.snippet.filter Snippet.shows with
  | none => rfl
  | some snippet =>
      rcases hget : c.get [request.language] with ⟨_ | _, c'⟩
      · simp only [advance]
      · simp only [advance]

theorem advance_uses (c : HighlighterCache σ) (stage : Stage) : Uses c (c.advance stage).2 := by
  cases stage with
  | requested request =>
      rw [advance]
      cases request.snippet.filter Snippet.shows with
      | none => exact .refl
      | some snippet =>
          have huses : Uses c (c.get [request.language]).2 := .get .refl _
          rcases hget : c.get [request.language] with ⟨_ | _, c'⟩
          all_goals rwa [hget] at huses
  | lent language snippet =>
      rw [advance, HighlighterCache.render]
      cases hlive : c.live with
      | none => exact .refl
      | some h => exact .render .refl hlive _ _
  | made frame => exact .refl

end HighlighterCache

def Snippet.options (s : Snippet) (language : Language) (themes : Themes) : RenderOptions :=
  ⟨language, themes, s.startLine, some s.errorLine⟩

/-- What a request comes to where loading and rendering have these outcomes. -/
def FrameRequest.markup (loads : Language → Except HighlightError Unit)
    (renders : String → RenderOptions → Except HighlightError String) (themes : Themes)
    (r : FrameRequest) : Option String :=
  match r.snippet.filter Snippet.shows with
  | none => none
  | some snippet =>
    match loads r.language with
    | .error _ => none
    | .ok () => (renders snippet.text (snippet.options r.language themes)).toOption

/-- Why there is no frame for a request. -/
inductive FrameRequest.Lacks (loads : Language → Except HighlightError Unit)
    (renders : String → RenderOptions → Except HighlightError String) (themes : Themes)
    (r : FrameRequest) : Prop
  | absent (hsnippet : r.snippet = none)
  | blank (snippet : Snippet) (hsnippet : r.snippet = some snippet)
      (hblank : ∀ ch ∈ snippet.text.toList, isBlank ch = true)
  | refused (e : HighlightError) (hload : loads r.language = .error e)
  | failed (snippet : Snippet) (hsnippet : r.snippet = some snippet) (e : HighlightError)
      (hrender : renders snippet.text (snippet.options r.language themes) = .error e)

theorem FrameRequest.markup_of_shows {r : FrameRequest} {snippet : Snippet}
    (hsnippet : r.snippet = some snippet) (hshows : snippet.shows = true) :
    r.markup loads renders themes = match loads r.language with
      | .error _ => none
      | .ok () => (renders snippet.text (snippet.options r.language themes)).toOption := by
  rw [markup, hsnippet, Option.filter_some, if_pos hshows]

theorem FrameRequest.markup_eq_none_iff (r : FrameRequest) :
    r.markup loads renders themes = none ↔ r.Lacks loads renders themes := by
  cases hsnippet : r.snippet with
  | none => exact iff_of_true (by rw [markup, hsnippet, Option.filter_none]) (.absent hsnippet)
  | some snippet =>
      cases hshows : snippet.shows with
      | false =>
          refine iff_of_true ?_ (.blank snippet hsnippet ?_)
          · rw [markup, hsnippet, Option.filter_some, hshows, if_neg Bool.false_ne_true]
          · simpa [Snippet.shows, Text.shows] using hshows
      | true =>
          rw [markup_of_shows hsnippet hshows]
          cases hload : loads r.language with
          | error e => exact iff_of_true rfl (.refused e hload)
          | ok _ =>
              cases hrender : renders snippet.text (snippet.options r.language themes) with
              | error e => exact iff_of_true rfl (.failed snippet hsnippet e hrender)
              | ok html =>
                  refine iff_of_false (by simp [Except.toOption]) fun hlacks => ?_
                  cases hlacks with
                  | absent hnone => simp [hsnippet] at hnone
                  | blank other hother hblank =>
                      obtain rfl := Option.some.inj (hsnippet.symm.trans hother)
                      obtain ⟨ch, hmem, hshown⟩ := List.any_eq_true.mp hshows
                      simp [hblank ch hmem] at hshown
                  | refused e hrefused => simp [hload] at hrefused
                  | failed other hother e hfailed =>
                      obtain rfl := Option.some.inj (hsnippet.symm.trans hother)
                      simp [hrender] at hfailed

namespace HighlighterCache

variable {c c' : HighlighterCache σ} {h : LiveHighlighter σ}

/-- What a frame at this stage will come to. -/
def Stage.Yields (loads : Language → Except HighlightError Unit)
    (renders : String → RenderOptions → Except HighlightError String) (c : HighlighterCache σ)
    (frame : Option String) : Stage → Prop
  | .requested request => request.markup loads renders c.themes = frame
  | .lent language snippet => language ∈ c.loaded ∧
      (renders snippet.text (snippet.options language c.themes)).toOption = frame
  | .made result => result = frame

/-- Use of the cache by others is no concern of a frame. -/
theorem Stage.Yields.grows {stage : Stage} {frame : Option String}
    (hyields : stage.Yields loads renders c frame) (hgrows : c.GrowsTo c') :
    stage.Yields loads renders c' frame := by
  cases stage with
  | requested request => rwa [Yields, hgrows.themes]
  | lent language snippet =>
      rw [Yields, hgrows.themes]
      exact ⟨hgrows.loaded hyields.1, hyields.2⟩
  | made result => exact hyields

/-- The outcome of loading decides a request for one language. -/
theorem Tracks.get_one (hc : Tracks f themes c) (hlive : c.live = some h)
    (hf : f.IsSteady themes h.number loads renders) (language : Language) :
    (∃ e, loads language = .error e ∧ (c.get [language]).1 = .error e) ∨
      loads language = .ok () ∧ ∃ n, (c.get [language]).1 = .ok n ∧
        language ∈ (c.get [language]).2.loaded := by
  obtain ⟨known, hreaches, hloaded⟩ := hc.reached h hlive
  by_cases hnoted : language ∈ c.loaded
  · -- it is not loaded again, but it was on the way here
    obtain ⟨h', -, hget⟩ := (serves_loaded hlive hnoted).get_eq
    rw [hget]
    exact .inr ⟨hf.load_of_mem hreaches (hloaded hnoted), _, rfl, hnoted⟩
  · have houtcome := hf.load hreaches language
    rw [← hc.factory] at houtcome
    rcases hload : c.factory.load language h.state with ⟨e | ⟨⟩, state⟩
    · have hget := ((stops_of_rejected hlive hnoted hload).2 []).1
      rw [hload] at houtcome
      rw [hget]
      exact .inl ⟨e, houtcome.symm, rfl⟩
    · obtain ⟨h', -, hget⟩ := (serves_load hlive hnoted hload).get_eq
      rw [hload] at houtcome
      rw [hget]
      exact .inr ⟨houtcome.symm, _, rfl, List.mem_cons_self⟩

theorem Tracks.render_of_mem (hc : Tracks f themes c) (hlive : c.live = some h)
    (hf : f.IsSteady themes h.number loads renders) {language : Language}
    (hlanguage : language ∈ c.loaded) (snippet : Snippet) :
    (c.render snippet.text language snippet.startLine (some snippet.errorLine)).1 =
      renders snippet.text (snippet.options language c.themes) := by
  obtain ⟨known, hreaches, hloaded⟩ := hc.reached h hlive
  rw [HighlighterCache.render, hlive, ← hf.render hreaches _ _ (hloaded hlanguage), ← hc.factory]
  rfl

/-- The step lemma: a turn of a frame leads to what the frame was to come to. -/
theorem Tracks.advance (hc : Tracks f themes c) (hlive : c.live = some h)
    (hf : f.IsSteady themes h.number loads renders) {stage : Stage} {frame : Option String}
    (hyields : stage.Yields loads renders c frame) :
    (c.advance stage).1.Yields loads renders (c.advance stage).2 frame := by
  cases stage with
  | requested request =>
      obtain rfl := hyields
      rw [HighlighterCache.advance, FrameRequest.markup]
      cases request.snippet.filter Snippet.shows with
      | none => rfl
      | some snippet =>
          have hthemes := (get_makesAll c [request.language]).growsTo.themes
          rcases hc.get_one hlive hf request.language with
            ⟨e, hload, hget⟩ | ⟨hload, n, hget, hloaded⟩
          all_goals
            rcases hboth : c.get [request.language] with ⟨outcome, c'⟩
            rw [hboth] at hget hthemes
            obtain rfl := hget
            simp only [hload]
          · rfl
          · rw [hboth] at hloaded
            exact ⟨hloaded, by rw [hthemes]⟩
  | lent language snippet =>
      obtain ⟨hloaded, rfl⟩ := hyields
      exact congrArg Except.toOption (hc.render_of_mem hlive hf hloaded snippet)
  | made result => exact hyields

/-! ## Two frames at once -/

/-- Two frames in the making, and the cache they share. -/
structure Joint (σ : Type) where
  cache : HighlighterCache σ
  authored : Stage
  compiled : Stage

/-- One of the frames takes a turn, or others use the cache. -/
inductive Joint.Step : Joint σ → Joint σ → Prop
  | authored (j : Joint σ) : Step j
      { j with cache := (j.cache.advance j.authored).2, authored := (j.cache.advance j.authored).1 }
  | compiled (j : Joint σ) : Step j
      { j with cache := (j.cache.advance j.compiled).2, compiled := (j.cache.advance j.compiled).1 }
  | others (j : Joint σ) {c' : HighlighterCache σ} (huses : Uses j.cache c') :
      Step j { j with cache := c' }

def Joint.Runs : Joint σ → Joint σ → Prop :=
  Relation.ReflTransGen Joint.Step

/-- The invariant of two frames in the making: the highlighter is the one of this attempt, and the
frames will come to these. -/
structure Joint.IsBound (f : HighlighterFactory σ) (themes : Themes) (attempt : Nat)
    (loads : Language → Except HighlightError Unit)
    (renders : String → RenderOptions → Except HighlightError String) (frames : CodeFrames)
    (j : Joint σ) : Prop where
  tracks : Tracks f themes j.cache
  live : ∃ h, j.cache.live = some h ∧ h.number = attempt
  authored : j.authored.Yields loads renders j.cache frames.authored
  compiled : j.compiled.Yields loads renders j.cache frames.compiled

theorem Joint.IsBound.step (hf : f.IsSteady themes attempt loads renders) {frames : CodeFrames}
    {j j' : Joint σ} (hj : j.IsBound f themes attempt loads renders frames) (hstep : j.Step j') :
    j'.IsBound f themes attempt loads renders frames := by
  obtain ⟨htracks, ⟨h, hlive, rfl⟩, hauthored, hcompiled⟩ := hj
  cases hstep with
  | authored =>
      have huses := j.cache.advance_uses j.authored
      exact ⟨htracks.uses huses, huses.growsTo.number h hlive,
        htracks.advance hlive hf hauthored, hcompiled.grows huses.growsTo⟩
  | compiled =>
      have huses := j.cache.advance_uses j.compiled
      exact ⟨htracks.uses huses, huses.growsTo.number h hlive,
        hauthored.grows huses.growsTo, htracks.advance hlive hf hcompiled⟩
  | others huses =>
      exact ⟨htracks.uses huses, huses.growsTo.number h hlive,
        hauthored.grows huses.growsTo, hcompiled.grows huses.growsTo⟩

theorem Joint.IsBound.runs (hf : f.IsSteady themes attempt loads renders) {frames : CodeFrames}
    {j j' : Joint σ} (hj : j.IsBound f themes attempt loads renders frames)
    (hruns : j.Runs j') : j'.IsBound f themes attempt loads renders frames := by
  induction hruns with
  | refl => exact hj
  | tail _ hstep ih => exact ih.step hf hstep

theorem frames_runs (c : HighlighterCache σ) (authored compiled : FrameRequest) :
    Joint.Runs ⟨c, .requested authored, .requested compiled⟩
      ⟨(c.frames authored compiled).2, .made (c.frames authored compiled).1.authored,
        .made (c.frames authored compiled).1.compiled⟩ := by
  have hauthored : Joint.Runs ⟨c, .requested authored, .requested compiled⟩
      ⟨(c.frame authored).2, .made (c.frame authored).1, .requested compiled⟩ := by
    have hrun := (Relation.ReflTransGen.single
      (Joint.Step.authored ⟨c, .requested authored, .requested compiled⟩)).tail (.authored _)
    rwa [advance_twice] at hrun
  have hcompiled := (hauthored.tail (.compiled _)).tail (.compiled _)
  rwa [advance_twice] at hcompiled

/-- However the making of two frames goes, they come to what is settled by their requests. -/
theorem Tracks.frames_of_runs (hc : Tracks f themes c) (hlive : c.live = some h)
    (hf : f.IsSteady themes h.number loads renders) {authored compiled : FrameRequest}
    {frames : CodeFrames}
    (hruns : Joint.Runs ⟨c, .requested authored, .requested compiled⟩
      ⟨c', .made frames.authored, .made frames.compiled⟩) :
    frames = ⟨authored.markup loads renders themes, compiled.markup loads renders themes⟩ := by
  have hbound : Joint.IsBound f themes h.number loads renders
      ⟨authored.markup loads renders themes, compiled.markup loads renders themes⟩
      ⟨c, .requested authored, .requested compiled⟩ :=
    ⟨hc, ⟨h, hlive, rfl⟩, by rw [Stage.Yields, hc.themes], by rw [Stage.Yields, hc.themes]⟩
  obtain ⟨-, -, hauthored, hcompiled⟩ := hbound.runs hf hruns
  obtain ⟨authoredFrame, compiledFrame⟩ := frames
  exact CodeFrames.mk.injEq .. ▸ ⟨hauthored, hcompiled⟩

theorem Tracks.frames_eq (hc : Tracks f themes c) (hlive : c.live = some h)
    (hf : f.IsSteady themes h.number loads renders) (authored compiled : FrameRequest) :
    (c.frames authored compiled).1 =
      ⟨authored.markup loads renders themes, compiled.markup loads renders themes⟩ :=
  hc.frames_of_runs hlive hf (c.frames_runs authored compiled)

/-- After any use of a cache that has its highlighter, neither of two frames depends on what the
other is of.  A frame is missing for one of four reasons of its own.  Both are the same however
their making is interleaved, with each other or with other use of the cache. -/
theorem frames_independent (huses : Uses (fresh f themes) c) (hlive : c.live = some h)
    (hf : f.IsSteady themes h.number loads renders) :
    (∀ authored authored' compiled,
      (c.frames authored compiled).1.compiled = (c.frames authored' compiled).1.compiled) ∧
    (∀ authored compiled compiled',
      (c.frames authored compiled).1.authored = (c.frames authored compiled').1.authored) ∧
    (∀ authored compiled,
      ((c.frames authored compiled).1.authored = none ↔ authored.Lacks loads renders themes) ∧
      ((c.frames authored compiled).1.compiled = none ↔ compiled.Lacks loads renders themes)) ∧
    ∀ authored compiled frames c', Joint.Runs ⟨c, .requested authored, .requested compiled⟩
        ⟨c', .made frames.authored, .made frames.compiled⟩ →
      frames = (c.frames authored compiled).1 := by
  have hc := (tracks_fresh f themes).uses huses
  have hframes := hc.frames_eq hlive hf
  refine ⟨?_, ?_, ?_, ?_⟩
  · intro authored authored' compiled
    rw [hframes, hframes]
  · intro authored compiled compiled'
    rw [hframes, hframes]
  · intro authored compiled
    rw [hframes]
    exact ⟨authored.markup_eq_none_iff, compiled.markup_eq_none_iff⟩
  · intro authored compiled frames c' hruns
    rw [hframes]
    exact hc.frames_of_runs hlive hf hruns

/-- A frame in a language that is refused, as it was before, is missing; the other is the one that
comes without it. -/
theorem frames_independent_of_refused_language :
    let f := Html.factory.refusing [.vue] [.css]
    let c := ((fresh f {}).get [.css, .vue]).2
    let loads := fun language => if language ∈ [Language.vue] then
      .error (.unsupportedLanguage language.name) else .ok ()
    let renders := fun code (options : RenderOptions) => if options.language ∈ [Language.css] then
      .error (.render ("no " ++ options.language.name)) else .ok (Html.render code options)
    let refused : FrameRequest := ⟨some ⟨"<template>", 1, 1⟩, .vue⟩
    let shown : FrameRequest := ⟨some ⟨"let a", 3, 3⟩, .typeScript⟩
    Uses (fresh f {}) c ∧ c.live = some ⟨0, [.css]⟩ ∧ f.IsSteady {} 0 loads renders ∧
      (c.frames refused shown).1.authored = none ∧
      (c.frames refused shown).1.compiled = (c.frames ⟨none, .text⟩ shown).1.compiled := by
  intro f c loads renders refused shown
  have huses : Uses (fresh f {}) c := .get .refl _
  have hlive : c.live = some ⟨0, [.css]⟩ := by decide
  have hf : f.IsSteady {} 0 loads renders := Html.refusing_isSteady [.vue] [.css] {} 0
  obtain ⟨hcompiled, -, hlacks, -⟩ := frames_independent huses hlive hf
  have hrefused : refused.Lacks loads renders {} := .refused (.unsupportedLanguage "vue") rfl
  exact ⟨huses, hlive, hf, (hlacks refused shown).1.mpr hrefused, hcompiled _ _ _⟩

end HighlighterCache

end ErrorOrigin
