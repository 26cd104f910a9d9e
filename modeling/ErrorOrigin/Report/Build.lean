import ErrorOrigin.CodeFrame
import ErrorOrigin.Hydration
import ErrorOrigin.Prompt
import ErrorOrigin.Report.Case
import ErrorOrigin.SourceTexts
import ErrorOrigin.Stack.Retrace

/-!
# Building reports

A report is built in stages, each of which asks the registry and fills in what it learns: the
retraced stack, the authored position, the source texts.  Failures leave fields at their defaults.
When the registry breaks down, the report is what the stages before have filled in.

A hydration mismatch is its own snippet, so the registry is not asked at all.
-/

namespace ErrorOrigin

/-- How reports are made. -/
structure Reporter where
  settings : Settings := {}
  generator : PromptGenerator := .markdown

/-- A report, the highlighter cache after it was made, and the queries it took. -/
structure Outcome (σ : Type) where
  report : Report
  cache : HighlighterCache σ
  queries : List Query

namespace Report

variable {σ : Type}

def withCompiled (r : Report) (p : Position) : Report :=
  { r with compiledFile := p.file, compiledLine := p.line, compiledColumn := p.column }

def withAuthored (r : Report) (p : Position) : Report :=
  { r with authoredFile := p.file, authoredLine := p.line, authoredColumn := p.column }

/-! ## Hydration mismatches -/

/-- The report on a mismatch with this difference.  No line of it is marked. -/
def ofHydration (reporter : Reporter) (c : Case) (cache : HighlighterCache σ) (diff : String) :
    Report × HighlighterCache σ :=
  let p := (Stack.firstPosition? c.frames).getD .unknown
  let snippet : Snippet := ⟨diff, 1, 0⟩
  let (frames, cache) := cache.frames ⟨some snippet, .diff⟩ ⟨none, .diff⟩
  let r := (c.opening.withCompiled p).withAuthored p
  ({ r with
      retracedStack := r.compiledStack
      authoredSnippet := diff
      authoredFrame := frames.authored
      fixPrompt :=
        Prompt.build reporter.generator c.primary p.file p.line .diff
          { authored := some snippet } },
    cache)

/-! ## Stages -/

/-- Where a compiled position comes from. -/
structure Provenance where
  compiled : Position
  module : Option ServedModule
  authored : Position

/-- Find the module of a compiled position and where it was authored.  What a framework pointed at
is authored code already. -/
def provenance [DomainForms] (settings : Settings) (isAuthored : Bool) (compiled : Position) :
    Inquiry Provenance := do
  let module := (← Resolution.resolveIdentifier settings compiled.file).map (·.module)
  match isAuthored, module with
  | false, some m => pure ⟨compiled, module, ← m.locate compiled⟩
  | _, _ => pure ⟨compiled, module, compiled⟩

/-- The authored and the compiled text.  If they are two files, the text of the authored one
counts before the one its compiled module knows. -/
def texts [DomainForms] (settings : Settings) (root : String) (p : Provenance) :
    Inquiry SourceTexts := do
  let candidates (path : String) := CandidateSet.ofIdentifier path settings.mount
  let compiledTexts :=
    SourceTexts.retrieve root p.module p.compiled.file (candidates p.compiled.file)
  if p.authored.file = p.compiled.file then compiledTexts
  else
    let module := (← Resolution.resolveIdentifier settings p.authored.file).map (·.module)
    let compiled ← compiledTexts
    let authored ← SourceTexts.retrieve root module p.authored.file (candidates p.authored.file)
    pure ⟨authored.authored.or compiled.authored, compiled.compiled⟩

/-- The report without code: only the message asks for a fix. -/
def withoutCode (reporter : Reporter) (c : Case) (r : Report) : Report :=
  { r with fixPrompt := Prompt.build reporter.generator c.primary "" 0 .text {} }

/-- The report with the snippets of the texts, rendered, and the prompt. -/
def withCode (reporter : Reporter) (c : Case) (r : Report) (p : Provenance) (t : SourceTexts)
    (cache : HighlighterCache σ) : Report × HighlighterCache σ :=
  let cut (text : Option String) (line : Nat) : Option Snippet :=
    text.bind (Snippet.cut? · line reporter.settings.snippetContext)
  let authored := cut t.authored p.authored.line
  let compiled := cut t.compiled p.compiled.line
  let (frames, cache) :=
    cache.frames (.forPath p.authored.file authored) (.forPath p.compiled.file compiled)
  ({ r with
      authoredSnippet := authored.elim "" (·.text)
      compiledSnippet := compiled.elim "" (·.text)
      authoredFrame := frames.authored
      compiledFrame := frames.compiled
      fixPrompt :=
        Prompt.build reporter.generator c.primary p.authored.file p.authored.line
          (Language.ofPath p.authored.file)
          { authored
            sourceText := t.compiled
            line := p.compiled.line
            contextLines := reporter.settings.promptContext } },
    cache)

/-- The stage of the source texts. -/
def finish [DomainForms] (registry : Registry) (reporter : Reporter) (c : Case) (r : Report)
    (p : Provenance) (cache : HighlighterCache σ) (past : List Query) : Outcome σ :=
  match registry.run (texts reporter.settings registry.root p) past with
  | (none, past) => ⟨r, cache, past⟩
  | (some t, past) =>
    let (r, cache) := withCode reporter c r p t cache
    ⟨r, cache, past⟩

/-- The stage of the authored position, and those after it. -/
def trace [DomainForms] (registry : Registry) (reporter : Reporter) (c : Case) (r : Report)
    (compiled : Position) (cache : HighlighterCache σ) (past : List Query) : Outcome σ :=
  let r := r.withCompiled compiled
  match registry.run (provenance reporter.settings c.adapted?.isSome compiled) past with
  | (none, past) => ⟨r, cache, past⟩
  | (some p, past) => finish registry reporter c (r.withAuthored p.authored) p cache past

/-- The stage of the retraced stack, and those after it. -/
def investigate [DomainForms] (registry : Registry) (reporter : Reporter) (c : Case)
    (cache : HighlighterCache σ) : Outcome σ :=
  match registry.run (Stack.retrace reporter.settings c.stack (some c.header)) [] with
  | (none, past) => ⟨c.opening, cache, past⟩
  | (some stack, past) =>
    let r := { c.opening with retracedStack := stack }
    match c.compiled? reporter.settings with
    | none => ⟨withoutCode reporter c r, cache, past⟩
    | some compiled => trace registry reporter c r compiled cache past

/-- The report on an incident. -/
def build [DomainForms] (registry : Registry) (reporter : Reporter) (cache : HighlighterCache σ)
    (incident : Incident) (request : ReportRequest) : Outcome σ :=
  let c := Case.ofIncident reporter.settings incident request
  match Hydration.diff? c.primary.message with
  | some diff =>
    let (r, cache) := ofHydration reporter c cache diff
    ⟨r, cache, []⟩
  | none => investigate registry reporter c cache

end Report

end ErrorOrigin
