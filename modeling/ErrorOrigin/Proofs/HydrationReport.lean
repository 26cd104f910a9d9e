import ErrorOrigin.Address.Label
import ErrorOrigin.Highlight.Html
import ErrorOrigin.Proofs.FramePosition
import ErrorOrigin.Proofs.ReportPosition
import ErrorOrigin.Registry.Memory
import Mathlib.Tactic

/-!
# Reports on hydration mismatches

The report on a mismatch is made of the selected record alone.  No registry is asked, nothing that
only serves to look modules up has a say, and the difference is shown without a line of the error.
-/

namespace ErrorOrigin

namespace Html

open Text

def unmarked (code : String) (options : RenderOptions) : String :=
  let spans := (lines code.toList).zipIdx.map fun (line, offset) =>
    writeLine (lineNumber options.startLine offset) false line
  opening options ++ String.intercalate "\n" spans ++ closing

/-- No line has the number zero, so a mark there falls on none. -/
theorem render_of_mark_zero {code : String} {options : RenderOptions}
    (hmarked : options.markedLine = some 0) (hstart : 0 < options.startLine) :
    render code options = unmarked code options := by
  have hnumber : ∀ offset, 0 < lineNumber options.startLine offset := by
    intro offset
    rw [lineNumber, Nat.lt_min]
    exact ⟨by omega, by decide⟩
  have hspan : ∀ offset,
      decide (options.markedLine = some (lineNumber options.startLine offset)) = false := by
    intro offset
    rw [hmarked, decide_eq_false_iff_not, Option.some.injEq]
    exact (hnumber offset).ne
  simp only [render, unmarked, hspan]

end Html

/-- The highlighter renders HTML, as far as it renders anything. -/
def HighlighterFactory.RendersHtml {σ : Type} (f : HighlighterFactory σ) : Prop :=
  ∀ code options state markup state',
    f.render code options state = (.ok markup, state') → markup = Html.render code options

theorem Html.factory_rendersHtml : Html.factory.RendersHtml := by
  intro code options loaded markup loaded' hrender
  simp only [Html.factory] at hrender
  split at hrender <;> cases hrender
  rfl

/-! ## One frame -/

namespace HighlighterCache

variable {σ : Type}

private theorem toOption_eq_some_iff {ε α : Type} {outcome : Except ε α} {a : α} :
    outcome.toOption = some a ↔ outcome = .ok a := by
  cases outcome <;> simp [Except.toOption]

theorem loadAll_kept (h : LiveHighlighter σ) (c : HighlighterCache σ)
    (languages : List Language) :
    (loadAll h c languages).2.factory = c.factory ∧
      (loadAll h c languages).2.themes = c.themes := by
  induction languages generalizing h c with
  | nil => exact ⟨rfl, rfl⟩
  | cons language rest ih =>
      rw [loadAll]
      split
      · exact ih h c
      · simp only
        split
        · exact ⟨rfl, rfl⟩
        · exact ih _ _

theorem get_kept (c : HighlighterCache σ) (languages : List Language) :
    (c.get languages).2.factory = c.factory ∧ (c.get languages).2.themes = c.themes := by
  rw [get, ensure]
  cases c.live with
  | some h => exact loadAll_kept h c languages
  | none =>
      cases c.factory.create c.attempts c.themes with
      | error e => exact ⟨rfl, rfl⟩
      | ok state => exact loadAll_kept _ _ languages

theorem render_of_ok {c : HighlighterCache σ} {code markup : String} {language : Language}
    {startLine : Nat} {marked : Option Nat}
    (hrender : (c.render code language startLine marked).1 = .ok markup) :
    ∃ state state',
      c.factory.render code ⟨language, c.themes, startLine, marked⟩ state =
        (.ok markup, state') := by
  rw [render] at hrender
  cases hlive : c.live with
  | none => simp [hlive] at hrender
  | some h =>
      rw [hlive] at hrender
      exact ⟨h.state, _, Prod.ext hrender rfl⟩

/-- A frame is what some highlighter of the factory made of the snippet. -/
theorem render_of_frame {c : HighlighterCache σ} {snippet : Snippet} {language : Language}
    {markup : String} (hframe : (c.frame ⟨some snippet, language⟩).1 = some markup) :
    ∃ state state',
      c.factory.render snippet.text
          ⟨language, c.themes, snippet.startLine, some snippet.errorLine⟩ state =
        (.ok markup, state') := by
  obtain ⟨hfactory, hthemes⟩ := c.get_kept [language]
  rw [frame, Option.filter_some] at hframe
  by_cases hshows : snippet.shows = true
  · simp only [hshows, if_true] at hframe
    cases hget : c.get [language] with
    | mk outcome loaded =>
        rw [hget] at hframe hfactory hthemes
        cases outcome with
        | error e => simp at hframe
        | ok number =>
            have hrender : (loaded.render snippet.text language snippet.startLine
                (some snippet.errorLine)).1 = .ok markup := by
              simpa [toOption_eq_some_iff] using hframe
            rw [← hfactory, ← hthemes]
            exact render_of_ok hrender
  · simp [hshows] at hframe

end HighlighterCache

/-! ## The report -/

namespace Case

theorem ofIncident_congr {settings settings' : Settings} (incident : Incident)
    {request request' : ReportRequest} (hlimit : settings'.frameLimit = settings.frameLimit)
    (hindex : request'.errorIndex = request.errorIndex) :
    let c := ofIncident settings incident request
    let c' := ofIncident settings' incident request'
    c'.records = c.records ∧ c'.primary = c.primary ∧ c'.frames = c.frames := by
  obtain ⟨errorIndex, framework, hint, allErrors⟩ := request'
  subst hindex
  refine ⟨rfl, rfl, ?_⟩
  simp only [ofIncident, hlimit]

theorem opening_congr {c c' : Case} (hrecords : c'.records = c.records)
    (hprimary : c'.primary = c.primary) (hframes : c'.frames = c.frames)
    (hplugin : c'.request.hint.bind (·.plugin) = c.request.hint.bind (·.plugin)) :
    c'.opening = c.opening := by
  simp only [opening, header, hrecords, hprimary, hframes, hplugin]

end Case

namespace Report

variable {σ : Type}

/-- The difference, which has no line of its own that is in error. -/
def differenceSnippet (diff : String) : Snippet := ⟨diff, 1, 0⟩

theorem ofHydration_fields (reporter : Reporter) (c : Case) (cache : HighlighterCache σ)
    (diff : String) :
    let r := (ofHydration reporter c cache diff).1
    r.compiledPosition = (Stack.firstPosition? c.frames).getD .unknown ∧
      r.authoredPosition = r.compiledPosition ∧ r.retracedStack = r.compiledStack ∧
      r.authoredSnippet = diff ∧ r.compiledSnippet = "" ∧ r.compiledFrame = none ∧
      r.authoredFrame = (cache.frame ⟨some (differenceSnippet diff), .diff⟩).1 :=
  ⟨rfl, rfl, rfl, rfl, rfl, rfl, rfl⟩

theorem frame_of_differenceSnippet {cache : HighlighterCache σ} {diff markup : String}
    (hframe : (cache.frame ⟨some (differenceSnippet diff), .diff⟩).1 = some markup) :
    (∃ options state state',
      cache.factory.render diff options state = (.ok markup, state') ∧
        ∀ marked, options.markedLine = some marked → marked < options.startLine) ∧
      (cache.factory.RendersHtml →
        markup = Html.unmarked diff ⟨.diff, cache.themes, 1, some 0⟩) := by
  obtain ⟨state, state', hrender⟩ := HighlighterCache.render_of_frame hframe
  refine ⟨⟨_, state, state', hrender, ?_⟩, ?_⟩
  · intro marked hmarked
    cases hmarked
    exact Nat.zero_lt_one
  · intro hhtml
    rw [hhtml _ _ _ _ _ hrender]
    exact Html.render_of_mark_zero rfl Nat.zero_lt_one

theorem ofHydration_congr {reporter reporter' : Reporter} {c c' : Case}
    (cache : HighlighterCache σ) (diff : String)
    (hgenerator : reporter'.generator = reporter.generator) (hframes : c'.frames = c.frames)
    (hprimary : c'.primary = c.primary) (hopening : c'.opening = c.opening) :
    ofHydration reporter' c' cache diff = ofHydration reporter c cache diff := by
  simp only [ofHydration, hgenerator, hframes, hprimary, hopening]

theorem build_eq_ofHydration [DomainForms] (registry : Registry) {reporter : Reporter}
    (cache : HighlighterCache σ) {incident : Incident} {request : ReportRequest} {c : Case}
    (hc : c = Case.ofIncident reporter.settings incident request) {diff : String}
    (hdiff : Hydration.diff? c.primary.message = some diff) :
    build registry reporter cache incident request =
      ⟨(ofHydration reporter c cache diff).1, (ofHydration reporter c cache diff).2, []⟩ := by
  subst c
  simp only [build, hdiff]

/-- The frame limit, the index and the plugin settle the whole outcome. -/
theorem build_congr_of_hydration [DomainForms] (registry registry' : Registry) (reporter : Reporter)
    (cache : HighlighterCache σ) (incident : Incident) {request request' : ReportRequest}
    {c : Case} (hc : c = Case.ofIncident reporter.settings incident request) {diff : String}
    (hdiff : Hydration.diff? c.primary.message = some diff) {settings : Settings}
    (hlimit : settings.frameLimit = reporter.settings.frameLimit)
    (hindex : request'.errorIndex = request.errorIndex)
    (hplugin : request'.hint.bind (·.plugin) = request.hint.bind (·.plugin)) :
    build registry' { reporter with settings := settings } cache incident request' =
      build registry reporter cache incident request := by
  obtain ⟨hrecords, hprimary, hframes⟩ := Case.ofIncident_congr incident hlimit hindex
  have hopening := Case.opening_congr hrecords hprimary hframes hplugin
  rw [← hc] at hprimary hframes hopening
  have hsame : ofHydration { reporter with settings := settings }
      (Case.ofIncident settings incident request') cache diff =
        ofHydration reporter c cache diff :=
    ofHydration_congr cache diff rfl hframes hprimary hopening
  rw [build_eq_ofHydration registry' cache rfl (hprimary ▸ hdiff), hsame,
    build_eq_ofHydration registry cache hc hdiff]

/-- The report on a mismatch asks nothing, depends on the record, the frame limit and the plugin
alone, and shows the difference with no line marked. -/
theorem build_of_hydration [DomainForms] (registry : Registry) (reporter : Reporter)
    (cache : HighlighterCache σ) (incident : Incident) (request : ReportRequest) {c : Case}
    (hc : c = Case.ofIncident reporter.settings incident request) {diff : String}
    (hdiff : Hydration.diff? c.primary.message = some diff) :
    let outcome := build registry reporter cache incident request
    let r := outcome.report
    outcome.queries = [] ∧
      (∀ (registry' : Registry) (settings : Settings) (request' : ReportRequest),
        settings.frameLimit = reporter.settings.frameLimit →
        request'.errorIndex = request.errorIndex →
        request'.hint.bind (·.plugin) = request.hint.bind (·.plugin) →
        build registry' { reporter with settings := settings } cache incident request' =
          outcome) ∧
      (∀ p, Stack.IsFirstAt c.frames p → r.compiledPosition = p) ∧
      ((∀ f ∈ c.frames, ∀ p, ¬f.IsAt p) → r.compiledPosition = ⟨"", 0, 0⟩) ∧
      r.authoredPosition = r.compiledPosition ∧ r.retracedStack = r.compiledStack ∧
      r.authoredSnippet = diff ∧ r.compiledSnippet = "" ∧ r.compiledFrame = none ∧
      (∀ markup, r.authoredFrame = some markup →
        (∃ options state state',
          cache.factory.render diff options state = (.ok markup, state') ∧
            ∀ marked, options.markedLine = some marked → marked < options.startLine) ∧
        (cache.factory.RendersHtml →
          markup = Html.unmarked diff ⟨.diff, cache.themes, 1, some 0⟩)) := by
  intro outcome r
  have houtcome : outcome =
      ⟨(ofHydration reporter c cache diff).1, (ofHydration reporter c cache diff).2, []⟩ :=
    build_eq_ofHydration registry cache hc hdiff
  have hr : r = (ofHydration reporter c cache diff).1 := congrArg Outcome.report houtcome
  obtain ⟨hposition, hauthored, hstack, hsnippet, hcompiled, hframe, hmarkup⟩ :=
    ofHydration_fields reporter c cache diff
  rw [← hr] at hposition hauthored hstack hsnippet hcompiled hframe hmarkup
  refine ⟨by rw [houtcome], ?_, ?_, ?_, hauthored, hstack, hsnippet, hcompiled, hframe, ?_⟩
  · intro registry' settings request' hlimit hindex hplugin
    exact build_congr_of_hydration registry registry' reporter cache incident hc hdiff hlimit
      hindex hplugin
  · intro p hp
    rw [hposition, Stack.firstPosition?_eq_some_iff.mpr hp]
    rfl
  · intro hframes
    rw [hposition, Stack.firstPosition?_eq_none_iff.mpr hframes]
    rfl
  · intro markup hsome
    exact frame_of_differenceSnippet (hmarkup.symm.trans hsome)

/-- A report on a mismatch that needs no answer from a registry that has broken down. -/
theorem build_of_hydration_broken_down :
    let diff := "+   <b>server</b>\n-   <b>client</b>"
    let e : ThrownError :=
      ⟨"Error", "Hydration failed\n  <p>\n" ++ diff ++ "\n  </p>",
        some "Error: Hydration failed\n    at native\n    at App (/src/App.tsx:4:2)"⟩
    let c := Case.ofIncident {} (.single e) {}
    let outcome :=
      build ⟨"", fun _ _ => none⟩ {} ⟨Html.factory, {}, 0, none, []⟩ (.single e) {}
    Hydration.diff? c.primary.message = some diff ∧ outcome.queries = [] ∧
      outcome.report.compiledPosition = ⟨"/src/App.tsx", 4, 2⟩ ∧
      outcome.report.authoredSnippet = diff ∧
      ∀ markup, outcome.report.authoredFrame = some markup →
        markup = Html.unmarked diff ⟨.diff, {}, 1, some 0⟩ := by
  intro diff e c outcome
  have hdiff : Hydration.diff? c.primary.message = some diff := by
    decide +kernel
  have hfirst : Stack.IsFirstAt c.frames ⟨"/src/App.tsx", 4, 2⟩ :=
    Stack.firstPosition?_eq_some_iff.mp (by decide +kernel)
  obtain ⟨hqueries, _, hposition, _, _, _, hsnippet, _, _, hframe⟩ :=
    build_of_hydration ⟨"", fun _ _ => none⟩ {} ⟨Html.factory, {}, 0, none, []⟩ (.single e) {}
      (c := c) rfl hdiff
  refine ⟨hdiff, hqueries, hposition _ hfirst, hsnippet, ?_⟩
  intro markup hmarkup
  exact (hframe markup hmarkup).2 Html.factory_rendersHtml

end Report

end ErrorOrigin
