import ErrorOrigin.Address.Label
import ErrorOrigin.Proofs.LoneModule
import ErrorOrigin.Proofs.ReportPosition
import Mathlib.Tactic

/-!
# The source that is quoted

A map may have been made from several sources, and the position tells which of them is meant.  The
text that is quoted is nevertheless that of the first, at the line of the one that is meant.
-/

namespace ErrorOrigin

variable {answer : (q : Query) → q.Answer} {m : ServedModule}

namespace SourceMap

/-- The anchor of the segment that decides a generated position. -/
def Trace.anchor? (t : Trace) (line column : Nat) : Option Anchor := do
  if line = 0 then none
  else
    let segments ← t.lines[line - 1]?
    let segment ← (segments.takeWhile fun s => s.column ≤ (column : Int)).getLast?
    segment.anchor

theorem Trace.origin?_eq_bind (t : Trace) (line column : Nat) :
    t.origin? line column = (t.anchor? line column).bind (·.origin? t.sources t.names) := by
  rw [origin?, anchor?]
  split
  · rfl
  · simp only [Option.bind_eq_bind, Option.bind_assoc]

theorem sources_of_trace {map : SourceMap} {trace : Trace} (htrace : map.trace = .ok trace) :
    trace.sources = map.resolvedSources := by
  rw [SourceMap.trace] at htrace
  split at htrace
  · cases htrace
  · cases hmappings : decodeMappings map.mappings with
    | error e => simp [hmappings, Except.map] at htrace
    | ok lines =>
        rw [hmappings] at htrace
        cases htrace
        rfl

theorem sources_length_pos {map : SourceMap} {trace : Trace} (htrace : map.trace = .ok trace)
    {a : Anchor} {origin : Origin} (horigin : a.origin? trace.sources trace.names = some origin) :
    0 < map.sources.length := by
  obtain ⟨source, hsource, -⟩ := Option.bind_eq_some_iff.mp horigin
  obtain ⟨index, -, hsource⟩ := Option.bind_eq_some_iff.mp hsource
  have hlt := (List.getElem?_eq_some_iff.mp hsource).1
  rw [sources_of_trace htrace, resolvedSources, List.length_map] at hlt
  omega

end SourceMap

namespace Case

theorem withQuery_cases [DomainForms] (settings : Settings) (others : List String) (file : String) :
    withQuery settings others file = file ∨
      '?' ∉ file.toList ∧ ∃ query, withQuery settings others file = file ++ "?" ++ query := by
  unfold withQuery
  simp only []
  split
  · exact .inl rfl
  · rename_i hmark
    generalize (do
      let own ← ownPath? file
      if own.utf8ByteSize < settings.scoring.leastSubstring then none
      else borrowedQuery? settings others own) = borrowed
    cases borrowed with
    | none => exact .inl rfl
    | some query => exact .inr ⟨hmark, query, rfl⟩

/-- The module is found whether its address was reported or came about by a borrowed query. -/
theorem mem_ofIdentifier_withQuery [DomainForms] {settings : Settings} {others : List String}
    {file url : String} (hweb : Address.claimsWeb url = false) (hne : file ≠ "")
    (hurl : file = url ∨ withQuery settings others file = url) (mount : String) :
    url ∈ CandidateSet.ofIdentifier (withQuery settings others file) mount := by
  rcases withQuery_cases settings others file with hsame | ⟨hmark, query, hquery⟩
  · have hfile : file = url := by
      rcases hurl with hfile | hfile
      · exact hfile
      · exact hsame.symm.trans hfile
    subst url
    rw [hsame]
    exact CandidateSet.mem_ofIdentifier hweb hne mount
  · rcases hurl with hfile | hfile
    · subst url
      rw [hquery]
      exact CandidateSet.mem_ofIdentifier_query hweb hne hmark query mount
    · rw [hfile]
      apply CandidateSet.mem_ofIdentifier hweb
      rw [← hfile, hquery]
      simp

theorem isUsable_of_reported? {c : Case} {p : Position} (hp : c.reported? = some p) :
    p.IsUsable := by
  rw [reported?, Option.or_eq_some_iff] at hp
  rcases hp with hhint | ⟨-, hframes⟩
  · obtain ⟨hint, -, hhint⟩ := Option.bind_eq_some_iff.mp hhint
    exact (PipelineHint.position?_eq_some_iff.mp hhint).2.2.2
  · obtain ⟨_, _, _, -, -, hf⟩ := Stack.firstPosition?_eq_some_iff.mp hframes
    exact hf.2.2.2

end Case

/-- The text of the lines around one, nothing if the source ends before it. -/
def Snippet.textAround (source : String) (line context : Nat) : String :=
  (cut? source line context).elim "" (·.text)

/-! ## The stages where there is one module -/

namespace Report

variable {σ : Type}

theorem afterStage_of_answers {registry : Registry} (hregistry : registry.Answers answer)
    {α : Type} {i : Inquiry α} {past : List Query} {r : Report} {cache : HighlighterCache σ}
    {next : α → List Query → Outcome σ} {P : Outcome σ → Prop}
    (hnext : ∀ later, P (next (i.value answer) later)) :
    P (afterStage (registry.run i past) r cache next) := by
  have hvalue := hregistry.run_fst i past
  cases hrun : registry.run i past with
  | mk found later =>
      rw [hrun] at hvalue
      cases hvalue
      exact hnext later

theorem investigate_of_answers [DomainForms] {registry : Registry}
    (hregistry : registry.Answers answer)
    (reporter : Reporter) {c : Case} (cache : HighlighterCache σ) {compiled : Position}
    (hcompiled : c.compiled? reporter.settings = some compiled) {p : Provenance}
    (hp : (provenance reporter.settings c.adapted?.isSome compiled).value answer = p)
    {t : SourceTexts} (ht : (texts reporter.settings registry.root p).value answer = t) :
    let r := (investigate registry reporter c cache).report
    r.authoredPosition = p.authored ∧
      r.authoredSnippet = t.authored.elim ""
        (Snippet.textAround · p.authored.line reporter.settings.snippetContext) := by
  let P (o : Outcome σ) : Prop := o.report.authoredPosition = p.authored ∧
    o.report.authoredSnippet = t.authored.elim ""
      (Snippet.textAround · p.authored.line reporter.settings.snippetContext)
  change P (investigate registry reporter c cache)
  rw [investigate_eq]
  apply afterStage_of_answers hregistry
  intro past
  simp only [afterRetracing, hcompiled, trace_eq]
  apply afterStage_of_answers hregistry
  intro past
  rw [hp, finish_eq]
  apply afterStage_of_answers hregistry
  intro past
  rw [ht]
  refine ⟨rfl, ?_⟩
  change (t.authored.bind _).elim "" _ = _
  cases t.authored <;> rfl

theorem value_provenance [DomainForms] (hm : HoldsOnly answer m) (settings : Settings)
    (compiled : Position) (hkey : m.url ∈ CandidateSet.ofIdentifier compiled.file settings.mount) :
    (provenance settings false compiled).value answer =
      ⟨compiled, some m, (m.locate compiled).value answer⟩ := by
  have hfound : (Resolution.resolveIdentifier settings compiled.file).value answer =
      some ⟨m, settings.scoring.exact⟩ :=
    hm.value_resolve_of_mem hkey settings.scoring
  rw [provenance, Inquiry.value_bind, hfound]
  simp

/-- Whatever file the position is in, the text is the content the map of the module has first. -/
theorem authored_value_texts [DomainForms] (hm : HoldsOnly answer m) (settings : Settings)
    (root : String) {p : Provenance} (hmodule : p.module = some m) :
    ((texts settings root p).value answer).authored =
      m.cachedMap?.bind SourceMap.firstContent? := by
  rw [texts, hmodule]
  split
  · exact hm.authored_retrieve_self root _ _
  · simp only [Inquiry.value_bind, Inquiry.value_pure, hm.authored_retrieve_self]
    generalize hfound : (Resolution.resolveIdentifier settings p.authored.file).value answer = found
    have hmodule : ∀ other, found.map (·.module) = some other → other = m := by
      intro other hother
      obtain ⟨resolution, rfl, rfl⟩ := Option.map_eq_some_iff.mp hother
      exact hm.value_resolve hfound
    have hquotes := hm.quotesFirst_retrieve root hmodule p.authored.file
      (CandidateSet.ofIdentifier p.authored.file settings.mount)
    cases hauthored : ((SourceTexts.retrieve root (found.map (·.module)) p.authored.file
        (CandidateSet.ofIdentifier p.authored.file settings.mount)).value answer).authored with
    | none => rfl
    | some text => exact (hquotes text hauthored).symm

theorem value_locate [DomainForms] (p : Position) (hknown : ¬(p.line = 0 ∨ p.column = 0))
    {map : SourceMap}
    (hmap : m.cachedMap? = some map) {trace : SourceMap.Trace} (htrace : map.trace = .ok trace)
    {origin : SourceMap.Origin} (horigin : trace.origin? p.line (p.column - 1) = some origin) :
    (m.locate p).value answer =
      ⟨ServedModule.sourceFrom p.file origin.source, origin.line,
        min (origin.column + 1) Position.greatest⟩ := by
  have hmapped : ServedModule.mappedPosition? map p =
      some ⟨ServedModule.sourceFrom p.file origin.source, origin.line,
        min (origin.column + 1) Position.greatest⟩ := by
    rw [ServedModule.mappedPosition?, htrace]
    simp [Except.toOption, horigin]
  rw [ServedModule.locate, if_neg hknown, ServedModule.map?, hmap]
  simp [hmapped]

/-- The snippet is cut from the content that the map has first, at the line of whichever source the
position comes from. -/
theorem authoredSnippet_of_first_source [DomainForms] {registry : Registry}
    (hregistry : registry.Answers answer) (hm : HoldsOnly answer m)
    (hweb : Address.claimsWeb m.url = false) (reporter : Reporter) (cache : HighlighterCache σ)
    (incident : Incident) (request : ReportRequest) {c : Case}
    (hc : c = Case.ofIncident reporter.settings incident request)
    (hdiff : Hydration.diff? c.primary.message = none) (hadapted : c.adapted? = none)
    {p : Position} (hreported : c.reported? = some p)
    (hurl : p.file = m.url ∨ Case.withQuery reporter.settings c.otherStacks p.file = m.url)
    {map : SourceMap} (hmap : m.cachedMap? = some map) {trace : SourceMap.Trace}
    (htrace : map.trace = .ok trace) {contents : List (Option String)}
    (hcontents : map.sourcesContent = some contents)
    (hall : ∀ i < map.sources.length, ∃ text, contents[i]? = some (some text))
    {a : SourceMap.Anchor} (hanchor : trace.anchor? p.line (p.column - 1) = some a)
    {origin : SourceMap.Origin}
    (horiginOf : a.origin? trace.sources trace.names = some origin) :
    let r := (build registry reporter cache incident request).report
    r.authoredLine = origin.line ∧
      ∃ first, contents[0]? = some (some first) ∧
        r.authoredSnippet =
          Snippet.textAround first origin.line reporter.settings.snippetContext ∧
        (a.source = 0 → SourceMap.nth? contents a.source = some (some first)) := by
  have hp := Case.isUsable_of_reported? hreported
  have hknown : ¬(p.line = 0 ∨ p.column = 0) := by
    have hline := hp.one_le_line
    have hcolumn := hp.one_le_column
    omega
  have horigin : trace.origin? p.line (p.column - 1) = some origin := by
    rw [SourceMap.Trace.origin?_eq_bind, hanchor, Option.bind_some, horiginOf]
  obtain ⟨first, hfirst⟩ := hall 0 (SourceMap.sources_length_pos htrace horiginOf)
  have hcontent : m.cachedMap?.bind SourceMap.firstContent? = some first := by
    rw [hmap, Option.bind_some, SourceMap.firstContent?, hcontents]
    simp [List.head?_eq_getElem?, hfirst]
  have hsource : c.adapted?.or c.reported? = some p := by
    rw [hadapted, Option.none_or, hreported]
  have hcompiled : c.compiled? reporter.settings =
      some { p with file := Case.withQuery reporter.settings c.otherStacks p.file } :=
    Case.compiled?_of_source hsource
  have hkey := Case.mem_ofIdentifier_withQuery hweb hp.file_ne hurl reporter.settings.mount
  generalize Case.withQuery reporter.settings c.otherStacks p.file = file at hcompiled hkey
  have hprovenance := value_provenance hm reporter.settings { p with file := file } hkey
  rw [value_locate { p with file := file } hknown hmap htrace horigin] at hprovenance
  have hfalse : c.adapted?.isSome = false := by
    rw [hadapted, Option.isSome_none]
  obtain ⟨hposition, hsnippet⟩ := investigate_of_answers hregistry reporter cache hcompiled
    (hfalse ▸ hprovenance) rfl
  rw [authored_value_texts hm _ _ rfl, hcontent] at hsnippet
  rw [build_eq_investigate hc hdiff]
  refine ⟨congrArg Position.line hposition, first, hfirst, hsnippet, ?_⟩
  intro hzero
  rw [hzero]
  exact hfirst

def bundleMap : SourceMap :=
  ⟨3, none, none, [some "/src/a.ts", some "/src/b.ts"],
    some [some "let a\nlet aa", some "let b\nlet bb"], [], "ECAA"⟩

def bundle : ServedModule :=
  ⟨"/dist/app.js", none, none, some ⟨"let a, b", some bundleMap⟩⟩

def bundleError : ThrownError :=
  ⟨"TypeError", "boom", some "TypeError: boom\n    at run (/dist/app.js:1:3)"⟩

theorem authoredSnippet_of_bundle :
    let c := Case.ofIncident {} (.single bundleError) {}
    let r := (build (Registry.ofModules [bundle]) {} ⟨Html.factory, {}, 0, none, []⟩
      (.single bundleError) {}).report
    Hydration.diff? c.primary.message = none ∧ c.adapted? = none ∧
      c.reported? = some ⟨bundle.url, 1, 3⟩ ∧ r.authoredLine = 1 ∧
      r.authoredSnippet = "let a\nlet aa" := by
  intro c r
  have hdiff : Hydration.diff? c.primary.message = none := by decide +kernel
  have hadapted : c.adapted? = none := by decide +kernel
  have hreported : c.reported? = some ⟨bundle.url, 1, 3⟩ := by decide +kernel
  have hmap : bundle.cachedMap? = some bundleMap := rfl
  have htrace : bundleMap.trace = .ok ⟨[some "/src/a.ts", some "/src/b.ts"], [],
      [[⟨2, some ⟨1, 0, 0, none⟩⟩]]⟩ := by
    decide +kernel
  have hcontents : bundleMap.sourcesContent =
      some [some "let a\nlet aa", some "let b\nlet bb"] := rfl
  have hall : ∀ i < bundleMap.sources.length,
      ∃ text, [some "let a\nlet aa", some "let b\nlet bb"][i]? = some (some text) := by
    intro i hi
    change i < 2 at hi
    interval_cases i
    · exact ⟨_, rfl⟩
    · exact ⟨_, rfl⟩
  have horigin : SourceMap.Anchor.origin? ⟨1, 0, 0, none⟩
      [some "/src/a.ts", some "/src/b.ts"] [] = some ⟨"/src/b.ts", 1, 0, none⟩ := rfl
  obtain ⟨hline, first, hfirst, hsnippet, -⟩ :=
    authoredSnippet_of_first_source (Registry.ofModules_answers [bundle])
      (holdsOnly_ofModules bundle) (by decide) {} ⟨Html.factory, {}, 0, none, []⟩
      (.single bundleError) {} rfl hdiff hadapted hreported (.inl rfl) hmap htrace hcontents hall
      (a := ⟨1, 0, 0, none⟩) rfl horigin
  cases hfirst
  exact ⟨hdiff, hadapted, hreported, hline, hsnippet.trans (by decide)⟩

/-- The position is in the second source, and the text of the first is quoted. -/
theorem authoredSnippet_of_second_source :
    let c := Case.ofIncident {} (.single bundleError) {}
    let r := (build (Registry.ofModules [bundle]) {} ⟨Html.factory, {}, 0, none, []⟩
      (.single bundleError) {}).report
    HoldsOnly (ServedModule.answer [bundle]) bundle ∧
      Hydration.diff? c.primary.message = none ∧ c.adapted? = none ∧
      c.reported? = some ⟨bundle.url, 1, 3⟩ ∧
      bundleMap.trace.toOption.bind (·.anchor? 1 2) = some ⟨1, 0, 0, none⟩ ∧
      bundleMap.sources[1]? = some (some r.authoredFile) ∧
      bundleMap.sourcesContent.bind (·[1]?) = some (some "let b\nlet bb") ∧
      r.authoredSnippet ≠ Snippet.textAround "let b\nlet bb" r.authoredLine 2 := by
  intro c r
  refine ⟨holdsOnly_ofModules bundle, ?_⟩
  decide +kernel

end Report

end ErrorOrigin
