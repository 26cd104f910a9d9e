import ErrorOrigin.Address.Label
import ErrorOrigin.Proofs.ReportPosition
import Mathlib.Tactic

/-!
# The authored position and the retraced stack

A report tells twice where the first usable frame was authored: as its authored position and in
the retraced stack.  Both come from inquiries of their own, and under fixed answers these have one
value.
-/

namespace ErrorOrigin

variable (answer : (q : Query) → q.Answer)

namespace Stack

theorem value_retraceFrames [DomainForms] (settings : Settings) (frames : List Frame) :
    (retraceFrames settings frames).value answer =
      frames.map fun f => (f.retrace settings).value answer := by
  induction frames with
  | nil => rfl
  | cons f rest ih => simp [retraceFrames, ih]

theorem value_retrace [DomainForms] (settings : Settings) (stack : String)
    (header : Option Header) :
    (retrace settings stack header).value answer =
      write ((retraceFrames settings (read stack settings.frameLimit)).value answer) header := by
  simp [retrace]

theorem Frame.value_retrace_of_nowhere [DomainForms] {settings : Settings} {f : Frame}
    (hf : ∀ p, ¬f.IsAt p) : (f.retrace settings).value answer = f := by
  rw [Frame.retrace, Frame.position?_eq_none_iff.mpr hf]
  rfl

theorem Frame.value_retrace_of_isAt [DomainForms] {settings : Settings} {f : Frame} {p : Position}
    (hf : f.IsAt p) :
    (f.retrace settings).value answer =
      f.moveTo ((Report.provenance settings false p).value answer).authored := by
  rw [Frame.retrace, Frame.position?_eq_some_iff.mpr hf, Report.provenance]
  simp only [Inquiry.value_bind]
  cases (Resolution.resolveIdentifier settings p.file).value answer with
  | none => simp [Frame.moveTo_of_isAt hf]
  | some found => simp

end Stack

namespace Report

variable {σ : Type} {answer}

/-- In the retraced stack the first usable frame is at the authored position of the report. -/
theorem retracedStack_of_first_frame [DomainForms] {registry : Registry}
    (hregistry : registry.Answers answer)
    (reporter : Reporter) (cache : HighlighterCache σ) (incident : Incident)
    (request : ReportRequest) {c : Case}
    (hc : c = Case.ofIncident reporter.settings incident request)
    (hdiff : Hydration.diff? c.primary.message = none) (hadapted : c.adapted? = none)
    (hhint : ∀ hint p, request.hint = some hint → ¬hint.IsAt p)
    {before after : List Stack.Frame} {f : Stack.Frame} {p : Position}
    (hframes : c.frames = before ++ f :: after) (hbefore : ∀ g ∈ before, ∀ q, ¬g.IsAt q)
    (hf : f.IsAt p)
    (hquery : Case.withQuery reporter.settings c.otherStacks p.file = p.file) :
    let r := (build registry reporter cache incident request).report
    ∃ rest,
      (registry.run (Stack.retraceFrames reporter.settings after) []).1 = some rest ∧
        r.retracedStack =
          Stack.write (before ++ f.moveTo r.authoredPosition :: rest) (some c.header) := by
  have hreported : c.reported? = some p := by
    rw [Case.reported?_of_no_hint (by rw [hc]; exact hhint), Stack.firstPosition?_eq_some_iff]
    exact ⟨before, f, after, hframes, hbefore, hf⟩
  have hcompiled : c.compiled? reporter.settings = some p := by
    rw [Case.compiled?_of_source (p := p) (by rw [hadapted, Option.none_or, hreported]), hquery]
  obtain ⟨stack, past, origin, hstack, horigin, hretraced, _, hauthored⟩ :=
    investigate_of_compiled (hregistry.answersAfter []) reporter cache hcompiled
  rw [build_eq_investigate hc hdiff]
  intro r
  have horiginValue : (provenance reporter.settings false p).value answer = origin := by
    rw [hadapted] at horigin
    exact hregistry.value_eq horigin
  have hstackValue :
      (Stack.retrace reporter.settings c.stack (some c.header)).value answer = stack :=
    hregistry.value_eq (congrArg Prod.fst hstack)
  have hread : Stack.read c.stack reporter.settings.frameLimit = before ++ f :: after := by
    rw [← hframes, hc]
    rfl
  have hkept :
      before.map (fun g => (g.retrace reporter.settings).value answer) = before := by
    conv_rhs => rw [← List.map_id before]
    exact List.map_congr_left fun g hg =>
      Stack.Frame.value_retrace_of_nowhere answer (hbefore g hg)
  refine ⟨_, hregistry.run_fst _ [], ?_⟩
  rw [hretraced, ← hstackValue, Stack.value_retrace, hread, Stack.value_retraceFrames,
    Stack.value_retraceFrames, List.map_append, List.map_cons, hkept,
    Stack.Frame.value_retrace_of_isAt answer hf, hauthored, horiginValue]

/-- The frame is below one that is nowhere, and its file has a query of its own. -/
theorem retracedStack_of_first_frame_mapped :
    let map : SourceMap := ⟨3, none, none, [some "/app/App.tsx"], none, [], ";;QASU"⟩
    let modules : List ServedModule := [⟨"/src/App.tsx", none, none, some ⟨"", some map⟩⟩]
    let registry := Registry.ofModules modules
    let p : Position := ⟨"/src/App.tsx?t=1", 3, 9⟩
    let e : ThrownError :=
      ⟨"TypeError", "boom",
        some "TypeError: boom\n    at native\n    at render (/src/App.tsx?t=1:3:9)"⟩
    let c := Case.ofIncident {} (.single e) {}
    let r := (build registry {} ⟨Html.factory, {}, 0, none, []⟩ (.single e) {}).report
    Hydration.diff? c.primary.message = none ∧ Stack.IsFirstAt c.frames p ∧
      Case.withQuery {} c.otherStacks p.file = p.file ∧
      r.authoredPosition = ⟨"/app/App.tsx", 10, 11⟩ ∧
      r.retracedStack =
        "TypeError: boom\n    at native\n    at render (/app/App.tsx:10:11)" := by
  intro map modules registry p e c r
  have hregistry : registry.Answers (ServedModule.answer modules) :=
    Registry.ofModules_answers modules
  have hdiff : Hydration.diff? c.primary.message = none := by
    decide +kernel
  have hquery : Case.withQuery {} c.otherStacks p.file = p.file := by
    decide +kernel
  have hauthored : r.authoredPosition = ⟨"/app/App.tsx", 10, 11⟩ := by
    decide +kernel
  let native : Stack.Frame := ⟨some "native", none, none, none⟩
  let f : Stack.Frame := ⟨some p.file, some 3, some 9, some "render"⟩
  have hframes : c.frames = [native] ++ f :: [] := by
    decide +kernel
  have hbefore : ∀ g ∈ [native], ∀ q, ¬g.IsAt q := by
    intro g hg
    rw [List.mem_singleton.mp hg]
    exact Stack.Frame.position?_eq_none_iff.mp rfl
  have hf : f.IsAt p := Stack.Frame.position?_eq_some_iff.mp (by decide +kernel)
  obtain ⟨rest, hrest, hstack⟩ :=
    retracedStack_of_first_frame hregistry {} ⟨Html.factory, {}, 0, none, []⟩ (.single e) {}
      (c := c) rfl hdiff rfl (by simp) hframes hbefore hf hquery
  cases hrest
  refine ⟨hdiff, ⟨_, f, _, hframes, hbefore, hf⟩, hquery, hauthored, ?_⟩
  change r.retracedStack = Stack.write ([native] ++ f.moveTo r.authoredPosition :: []) _ at hstack
  rw [hstack, hauthored]
  decide +kernel

end Report

end ErrorOrigin
