import ErrorOrigin.Address.Label
import ErrorOrigin.Highlight.Html
import ErrorOrigin.Proofs.FramePosition
import ErrorOrigin.Proofs.InquiryAnswers
import ErrorOrigin.Proofs.ReportStages
import Mathlib.Tactic

/-!
# The compiled position of a report

Three sources may say where an error is: the framework's own message, the pipeline, and the stack.
The first that says anything usable is believed.  What a framework points at is authored already,
so there no map is followed and nothing else has a say.
-/

namespace ErrorOrigin

namespace Report

variable {σ : Type}

def compiledPosition (r : Report) : Position :=
  ⟨r.compiledFile, r.compiledLine, r.compiledColumn⟩

def authoredPosition (r : Report) : Position :=
  ⟨r.authoredFile, r.authoredLine, r.authoredColumn⟩

theorem build_eq_investigate [DomainForms] {registry : Registry} {reporter : Reporter}
    {cache : HighlighterCache σ} {incident : Incident} {request : ReportRequest} {c : Case}
    (hc : c = Case.ofIncident reporter.settings incident request)
    (hdiff : Hydration.diff? c.primary.message = none) :
    build registry reporter cache incident request = investigate registry reporter c cache := by
  subst c
  simp only [build, hdiff]

theorem finish_report [DomainForms] (registry : Registry) (reporter : Reporter) (c : Case)
    (r : Report) (p : Provenance) (cache : HighlighterCache σ) (past : List Query) :
    let finished := (finish registry reporter c r p cache past).report
    finished.retracedStack = r.retracedStack ∧
      finished.compiledPosition = r.compiledPosition ∧
      finished.authoredPosition = r.authoredPosition := by
  intro finished
  have hkept : finished.upTo .quoting = r.upTo .quoting :=
    finish_upTo registry reporter c r p cache past .quoting
  have hstack := congrArg retracedStack hkept
  have hcompiled := congrArg compiledPosition hkept
  have hauthored := congrArg authoredPosition hkept
  exact ⟨hstack, hcompiled, hauthored⟩

theorem investigate_of_compiled [DomainForms] {registry : Registry}
    (hregistry : registry.AnswersAfter [])
    (reporter : Reporter) {c : Case} (cache : HighlighterCache σ) {compiled : Position}
    (hcompiled : c.compiled? reporter.settings = some compiled) :
    ∃ stack past p,
      registry.run (Stack.retrace reporter.settings c.stack (some c.header)) [] =
          (some stack, past) ∧
        (registry.run (provenance reporter.settings c.adapted?.isSome compiled) past).1 =
          some p ∧
        let r := (investigate registry reporter c cache).report
        r.retracedStack = stack ∧ r.compiledPosition = compiled ∧
          r.authoredPosition = p.authored := by
  obtain ⟨stack, past, hstack⟩ :=
    hregistry.exists_run (Stack.retrace reporter.settings c.stack (some c.header))
  obtain ⟨p, later, hp⟩ := (hregistry.append past).exists_run
    (provenance reporter.settings c.adapted?.isSome compiled)
  refine ⟨stack, _, p, hstack, by rw [hp], ?_⟩
  rw [investigate_eq, hstack]
  simp only [afterStage, afterRetracing, hcompiled, trace_eq, hp]
  exact finish_report ..

theorem investigate_of_no_compiled [DomainForms] {registry : Registry}
    (hregistry : registry.AnswersAfter []) (reporter : Reporter) {c : Case}
    (cache : HighlighterCache σ) (hcompiled : c.compiled? reporter.settings = none) :
    ∃ stack,
      (registry.run (Stack.retrace reporter.settings c.stack (some c.header)) []).1 =
          some stack ∧
        (investigate registry reporter c cache).report =
          withoutCode reporter c { c.opening with retracedStack := stack } := by
  obtain ⟨stack, past, hstack⟩ :=
    hregistry.exists_run (Stack.retrace reporter.settings c.stack (some c.header))
  refine ⟨stack, by rw [hstack], ?_⟩
  rw [investigate_eq, hstack]
  simp only [afterStage, afterRetracing, hcompiled]

theorem authored_of_provenance [DomainForms] {registry : Registry} {settings : Settings}
    {compiled : Position} {past : List Query} {p : Provenance}
    (hp : (registry.run (provenance settings true compiled) past).1 = some p) :
    p.authored = compiled := by
  rw [provenance, Registry.run_bind] at hp
  cases hfound : registry.run (Resolution.resolveIdentifier settings compiled.file) past with
  | mk found queries =>
      rw [hfound] at hp
      cases found with
      | none => simp at hp
      | some found =>
          have hprovenance : Provenance.mk compiled (found.map (·.module)) compiled = p := by
            simpa [pure, Registry.run] using hp
          exact hprovenance ▸ rfl

end Report

/-! ## Borrowed queries -/

namespace Case

/-- The address is the file, perhaps with a query that a frame of another stack shows for it. -/
def Borrows [DomainForms] (settings : Settings) (others : List String) (file address : String) :
    Prop :=
  address = file ∨
    ∃ own query, ownPath? file = some own ∧ address = file ++ "?" ++ query ∧
      ∃ stack ∈ others, ∃ f ∈ Stack.read stack settings.frameLimit,
        queryOfFrame? own f = some query

theorem eq_of_borrows_nil [DomainForms] {settings : Settings} {file address : String}
    (haddress : Borrows settings [] file address) : address = file := by
  rcases haddress with haddress | ⟨_, _, _, _, stack, hstack, _⟩
  · exact haddress
  · exact absurd hstack List.not_mem_nil

theorem exists_of_borrowedQuery? [DomainForms] {settings : Settings} {others : List String}
    {own query : String} (hquery : borrowedQuery? settings others own = some query) :
    ∃ stack ∈ others, ∃ f ∈ Stack.read stack settings.frameLimit,
      queryOfFrame? own f = some query := by
  obtain ⟨stack, hstack, hframes⟩ := List.exists_of_findSome?_eq_some hquery
  obtain ⟨f, hf, hquery⟩ := List.exists_of_findSome?_eq_some hframes
  exact ⟨stack, hstack, f, hf, hquery⟩

theorem borrows_withQuery [DomainForms] (settings : Settings) (others : List String)
    (file : String) :
    Borrows settings others file (withQuery settings others file) := by
  rw [withQuery]
  split
  · exact .inl rfl
  · cases hown : ownPath? file with
    | none => exact .inl rfl
    | some own =>
        simp only [Option.bind_eq_bind, Option.bind_some]
        split
        · exact .inl rfl
        · cases hquery : borrowedQuery? settings others own with
          | none => exact .inl rfl
          | some query =>
              exact .inr ⟨own, query, hown, rfl, exists_of_borrowedQuery? hquery⟩

end Case

/-- The report is on this compiled position, perhaps with a borrowed query. -/
def Report.IsOn [DomainForms] (r : Report) (settings : Settings) (others : List String)
    (p : Position) : Prop :=
  Case.Borrows settings others p.file r.compiledFile ∧ r.compiledLine = p.line ∧
    r.compiledColumn = p.column

theorem Report.isOn_of_compiledPosition [DomainForms] {r : Report} {settings : Settings}
    {others : List String} {p : Position}
    (hr : r.compiledPosition = { p with file := Case.withQuery settings others p.file }) :
    r.IsOn settings others p := by
  have hfile : r.compiledFile = Case.withQuery settings others p.file :=
    congrArg Position.file hr
  refine ⟨?_, congrArg Position.line hr, congrArg Position.column hr⟩
  rw [hfile]
  exact Case.borrows_withQuery settings others p.file

/-! ## Sources of a position -/

namespace Case

theorem compiled?_of_source [DomainForms] {settings : Settings} {c : Case} {p : Position}
    (hsource : c.adapted?.or c.reported? = some p) :
    c.compiled? settings = some { p with file := withQuery settings c.otherStacks p.file } := by
  rw [compiled?, hsource, Option.map_some]

theorem reported?_of_hint {c : Case} {hint : PipelineHint} {p : Position}
    (hhint : c.request.hint = some hint) (hp : hint.IsAt p) : c.reported? = some p := by
  rw [reported?, hhint, Option.bind_some, PipelineHint.position?_eq_some_iff.mpr hp,
    Option.some_or]

theorem reported?_of_no_hint {c : Case}
    (hhint : ∀ hint p, c.request.hint = some hint → ¬hint.IsAt p) :
    c.reported? = Stack.firstPosition? c.frames := by
  have hnone : c.request.hint.bind PipelineHint.position? = none := by
    rw [Option.bind_eq_none_iff]
    intro hint hsome
    exact PipelineHint.position?_eq_none_iff.mpr fun p => hhint hint p hsome
  rw [reported?, hnone, Option.none_or]

theorem getElem?_index (c : Case) : c.records[c.index.val]? = some c.primary :=
  List.getElem?_eq_getElem c.index.isLt

/-- Replacing the stack of the selected record alone keeps what else a case says. -/
theorem ofIncident_set_stack {settings : Settings} {incident incident' : Incident}
    {request : ReportRequest} {c : Case} (hc : c = ofIncident settings incident request)
    (stack : Option String) (hint : Option PipelineHint)
    (hrecords : incident'.records =
      incident.records.set c.index { c.primary with stack := stack }) :
    let c' := ofIncident settings incident' { request with hint := hint }
    c'.primary = { c.primary with stack := stack } ∧ c'.adapted? = c.adapted? ∧
      c'.otherStacks = c.otherStacks := by
  intro c'
  have hindex : c'.index.val = c.index.val := by
    subst c
    change min request.errorIndex (incident'.records.length - 1) =
      min request.errorIndex (incident.records.length - 1)
    rw [hrecords, List.length_set]
  have hlist : c'.records = c.records.set c.index { c.primary with stack := stack } := by
    subst c
    exact hrecords
  have hprimary : c'.primary = { c.primary with stack := stack } := by
    have hget := c'.getElem?_index
    rw [hindex, hlist, List.getElem?_set_self c.index.isLt] at hget
    exact (Option.some.inj hget).symm
  have hframework : c'.request.framework = c.request.framework := by
    subst c
    rfl
  have hallErrors : c'.request.allErrors = c.request.allErrors := by
    subst c
    rfl
  refine ⟨hprimary, ?_, ?_⟩
  · simp only [adapted?, hprimary, hframework]
  · rw [otherStacks, otherStacks, hindex, hlist, hallErrors, List.eraseIdx_set_eq]

end Case

namespace Report

variable {σ : Type}

theorem build_of_source [DomainForms] {registry : Registry} (hregistry : registry.AnswersAfter [])
    (reporter : Reporter) (cache : HighlighterCache σ) (incident : Incident)
    (request : ReportRequest) {c : Case}
    (hc : c = Case.ofIncident reporter.settings incident request)
    (hdiff : Hydration.diff? c.primary.message = none) {p : Position}
    (hsource : c.adapted?.or c.reported? = some p) :
    let r := (build registry reporter cache incident request).report
    r.compiledPosition =
        { p with file := Case.withQuery reporter.settings c.otherStacks p.file } ∧
      (c.adapted?.isSome = true → r.authoredPosition = r.compiledPosition) := by
  obtain ⟨stack, past, origin, _, horigin, _, hcompiled, hauthored⟩ :=
    investigate_of_compiled hregistry reporter cache (Case.compiled?_of_source hsource)
  rw [build_eq_investigate hc hdiff]
  refine ⟨hcompiled, ?_⟩
  intro hadapted
  rw [hadapted] at horigin
  rw [hauthored, hcompiled]
  exact authored_of_provenance horigin

/-- What the message points at is authored already. -/
theorem build_of_adapted [DomainForms] {registry : Registry} (hregistry : registry.AnswersAfter [])
    (reporter : Reporter) (cache : HighlighterCache σ) (incident : Incident)
    (request : ReportRequest) {c : Case}
    (hc : c = Case.ofIncident reporter.settings incident request)
    (hdiff : Hydration.diff? c.primary.message = none) {p : Position}
    (hadapted : c.adapted? = some p) :
    let r := (build registry reporter cache incident request).report
    r.compiledPosition =
        { p with file := Case.withQuery reporter.settings c.otherStacks p.file } ∧
      r.authoredPosition = r.compiledPosition := by
  obtain ⟨hcompiled, hauthored⟩ :=
    build_of_source hregistry reporter cache incident request hc hdiff (p := p)
      (by rw [hadapted, Option.some_or])
  exact ⟨hcompiled, hauthored (by rw [hadapted, Option.isSome_some])⟩

/-- Where the message points, neither another registry nor another stack of the record nor another
hint moves the positions. -/
theorem positions_of_adapted_congr [DomainForms] {registry registry' : Registry}
    (hregistry : registry.AnswersAfter []) (hregistry' : registry'.AnswersAfter [])
    (reporter : Reporter) (cache : HighlighterCache σ) {incident incident' : Incident}
    {request : ReportRequest} {c : Case}
    (hc : c = Case.ofIncident reporter.settings incident request)
    (hdiff : Hydration.diff? c.primary.message = none) {p : Position}
    (hadapted : c.adapted? = some p) (stack : Option String) (hint : Option PipelineHint)
    (hrecords : incident'.records =
      incident.records.set c.index { c.primary with stack := stack }) :
    let r := (build registry reporter cache incident request).report
    let r' := (build registry' reporter cache incident' { request with hint := hint }).report
    r'.compiledPosition = r.compiledPosition ∧ r'.authoredPosition = r.authoredPosition := by
  intro r r'
  obtain ⟨hcompiled, hauthored⟩ :=
    build_of_adapted hregistry reporter cache incident request hc hdiff hadapted
  obtain ⟨hprimary, hkept, hothers⟩ := Case.ofIncident_set_stack hc stack hint hrecords
  obtain ⟨hcompiled', hauthored'⟩ :=
    build_of_adapted hregistry' reporter cache incident' { request with hint := hint } rfl
      (by rw [hprimary]; exact hdiff) (hkept.trans hadapted)
  rw [hothers] at hcompiled'
  have hsame : r'.compiledPosition = r.compiledPosition := hcompiled'.trans hcompiled.symm
  exact ⟨hsame, hauthored'.trans (hsame.trans hauthored.symm)⟩

theorem build_of_no_source [DomainForms] {registry : Registry}
    (hregistry : registry.AnswersAfter [])
    (reporter : Reporter) (cache : HighlighterCache σ) (incident : Incident)
    (request : ReportRequest) {c : Case}
    (hc : c = Case.ofIncident reporter.settings incident request)
    (hdiff : Hydration.diff? c.primary.message = none)
    (hsource : c.adapted?.or c.reported? = none) :
    let r := (build registry reporter cache incident request).report
    r.compiledPosition = .unknown ∧ r.authoredPosition = .unknown ∧
      r.compiledSnippet = "" ∧ r.authoredSnippet = "" ∧
      r.compiledFrame = none ∧ r.authoredFrame = none ∧
      (registry.run (Stack.retrace reporter.settings c.stack (some c.header)) []).1 =
        some r.retracedStack := by
  have hcompiled : c.compiled? reporter.settings = none := by
    rw [Case.compiled?, hsource, Option.map_none]
  obtain ⟨stack, hstack, hreport⟩ :=
    investigate_of_no_compiled hregistry reporter cache hcompiled
  rw [build_eq_investigate hc hdiff, hreport]
  exact ⟨rfl, rfl, rfl, rfl, rfl, rfl, hstack⟩

/-- The position of a report is that of the framework's message, else that of the pipeline, else
that of the first usable frame; else the report has no place and no code. -/
theorem build_position_precedence [DomainForms] {registry : Registry}
    (hregistry : registry.AnswersAfter [])
    (reporter : Reporter) (cache : HighlighterCache σ) (incident : Incident)
    (request : ReportRequest) {c : Case}
    (hc : c = Case.ofIncident reporter.settings incident request)
    (hdiff : Hydration.diff? c.primary.message = none) :
    let r := (build registry reporter cache incident request).report
    (∀ p, c.adapted? = some p →
      r.IsOn reporter.settings c.otherStacks p ∧ r.authoredPosition = r.compiledPosition ∧
        ∀ (registry' : Registry) (incident' : Incident) (stack : Option String)
          (hint : Option PipelineHint),
          registry'.AnswersAfter [] →
          incident'.records =
            incident.records.set c.index { c.primary with stack := stack } →
          let r' :=
            (build registry' reporter cache incident' { request with hint := hint }).report
          r'.compiledPosition = r.compiledPosition ∧
            r'.authoredPosition = r.authoredPosition) ∧
      (c.adapted? = none →
        (∀ hint p, request.hint = some hint → hint.IsAt p →
          r.IsOn reporter.settings c.otherStacks p) ∧
        ((∀ hint p, request.hint = some hint → ¬hint.IsAt p) →
          (∀ p, Stack.IsFirstAt c.frames p → r.IsOn reporter.settings c.otherStacks p) ∧
          ((∀ f ∈ c.frames, ∀ p, ¬f.IsAt p) →
            r.compiledPosition = .unknown ∧ r.authoredPosition = .unknown ∧
              r.compiledSnippet = "" ∧ r.authoredSnippet = "" ∧
              r.compiledFrame = none ∧ r.authoredFrame = none ∧
              (registry.run (Stack.retrace reporter.settings c.stack (some c.header)) []).1 =
                some r.retracedStack))) := by
  intro r
  have hrequest : c.request = request := by
    subst c
    rfl
  refine ⟨?_, ?_⟩
  · intro p hadapted
    obtain ⟨hcompiled, hauthored⟩ :=
      build_of_adapted hregistry reporter cache incident request hc hdiff hadapted
    refine ⟨isOn_of_compiledPosition hcompiled, hauthored, ?_⟩
    intro registry' incident' stack hint hregistry' hrecords
    exact positions_of_adapted_congr hregistry hregistry' reporter cache hc hdiff hadapted stack
      hint hrecords
  -- The sources that are left are the hint and then the stack.
  · intro hadapted
    have hor : c.adapted?.or c.reported? = c.reported? := by
      rw [hadapted, Option.none_or]
    have hposition : ∀ p, c.reported? = some p → r.IsOn reporter.settings c.otherStacks p := by
      intro p hreported
      exact isOn_of_compiledPosition (build_of_source hregistry reporter cache incident request
        hc hdiff (hor.trans hreported)).1
    refine ⟨?_, ?_⟩
    · intro hint p hhint hp
      exact hposition p (Case.reported?_of_hint (hrequest ▸ hhint) hp)
    · intro hhint
      have hreported := Case.reported?_of_no_hint (c := c) (hrequest ▸ hhint)
      refine ⟨?_, ?_⟩
      · intro p hp
        exact hposition p (hreported.trans (Stack.firstPosition?_eq_some_iff.mpr hp))
      · intro hframes
        have hfirst := Stack.firstPosition?_eq_none_iff.mpr hframes
        exact build_of_no_source hregistry reporter cache incident request hc hdiff
          (hor.trans (hreported.trans hfirst))

/-- The position in the message counts, although pipeline and stack tell others. -/
theorem build_position_precedence_of_message :
    let registry := Registry.ofModules []
    let request : ReportRequest :=
      { framework := some " Vue", hint := some ⟨some "/src/main.ts", some 1, some 1, none⟩ }
    let e : ThrownError :=
      ⟨"SyntaxError", "[vue/compiler-sfc] Unexpected token (3:9)\n\n/src/App.vue",
        some "SyntaxError\n    at compile (/src/compile.ts:40:7)"⟩
    let c := Case.ofIncident {} (.single e) request
    let r := (build registry {} ⟨Html.factory, {}, 0, none, []⟩ (.single e) request).report
    registry.AnswersAfter [] ∧ Hydration.diff? c.primary.message = none ∧
      r.compiledPosition = ⟨"/src/App.vue", 3, 9⟩ ∧
      r.authoredPosition = ⟨"/src/App.vue", 3, 9⟩ := by
  intro registry request e c r
  have hregistry : registry.AnswersAfter [] := (Registry.ofModules_answers []).answersAfter []
  have hdiff : Hydration.diff? c.primary.message = none := by
    decide +kernel
  have hadapted : c.adapted? = some ⟨"/src/App.vue", 3, 9⟩ := by
    decide +kernel
  have hothers : c.otherStacks = [] := by
    decide +kernel
  obtain ⟨⟨hfile, hline, hcolumn⟩, hauthored, _⟩ :=
    (build_position_precedence hregistry {} ⟨Html.factory, {}, 0, none, []⟩ (.single e) request
      (c := c) rfl hdiff).1 _ hadapted
  rw [hothers] at hfile
  have hcompiled : r.compiledPosition = ⟨"/src/App.vue", 3, 9⟩ := by
    rw [compiledPosition, Case.eq_of_borrows_nil hfile, hline, hcolumn]
  exact ⟨hregistry, hdiff, hcompiled, hauthored.trans hcompiled⟩

end Report

end ErrorOrigin
