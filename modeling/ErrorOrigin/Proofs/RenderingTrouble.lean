import ErrorOrigin.Proofs.ReportStages
import Mathlib.Tactic

/-!
# Trouble with rendering

A highlighter may fail to be made, refuse a language or a text, and go by what it did before.  All
of this shows in the two frames of a report alone.  The queries and the other fields come about
without the cache, so two caches, of whatever make, agree on them stage by stage.
-/

namespace ErrorOrigin

variable {σ τ : Type}

def Report.withFrames (r : Report) (frames : CodeFrames) : Report :=
  { r with authoredFrame := frames.authored, compiledFrame := frames.compiled }

def Report.frames (r : Report) : CodeFrames :=
  ⟨r.authoredFrame, r.compiledFrame⟩

/-- The same queries led to the same report, but for its frames. -/
structure Outcome.AgreesButFrames (o : Outcome σ) (o' : Outcome τ) : Prop where
  report : o'.report = o.report.withFrames o'.report.frames
  queries : o'.queries = o.queries

theorem Outcome.agreesButFrames_of_report (r : Report) (cache : HighlighterCache σ)
    (cache' : HighlighterCache τ) (past : List Query) :
    AgreesButFrames ⟨r, cache, past⟩ ⟨r, cache', past⟩ :=
  ⟨rfl, rfl⟩

namespace Report

/-- The step lemma: a stage asks the registry and not the cache, so what follows decides. -/
theorem afterStage_agreesButFrames {α : Type} (found : Option α × List Query) (r : Report)
    (cache : HighlighterCache σ) (cache' : HighlighterCache τ)
    {next : α → List Query → Outcome σ} {next' : α → List Query → Outcome τ}
    (hnext : ∀ a past, (next a past).AgreesButFrames (next' a past)) :
    (afterStage found r cache next).AgreesButFrames (afterStage found r cache' next') := by
  obtain ⟨found, past⟩ := found
  cases found with
  | none => exact Outcome.agreesButFrames_of_report r cache cache' past
  | some a => exact hnext a past

section

variable (registry : Registry) (reporter : Reporter) (c : Case) (cache : HighlighterCache σ)
  (cache' : HighlighterCache τ)

/-- Snippets and prompt are cut from the texts, not from what was rendered. -/
theorem withCode_agreesButFrames (r : Report) (p : Provenance) (t : SourceTexts) :
    (withCode reporter c r p t cache').1 =
      (withCode reporter c r p t cache).1.withFrames (withCode reporter c r p t cache').1.frames :=
  rfl

theorem ofHydration_agreesButFrames (diff : String) :
    (ofHydration reporter c cache' diff).1 =
      (ofHydration reporter c cache diff).1.withFrames
        (ofHydration reporter c cache' diff).1.frames :=
  rfl

theorem finish_agreesButFrames [DomainForms] (r : Report) (p : Provenance) (past : List Query) :
    (finish registry reporter c r p cache past).AgreesButFrames
      (finish registry reporter c r p cache' past) := by
  rw [finish_eq, finish_eq]
  apply afterStage_agreesButFrames
  intro t past
  exact ⟨withCode_agreesButFrames reporter c cache cache' r p t, rfl⟩

theorem trace_agreesButFrames [DomainForms] (r : Report) (compiled : Position) (past : List Query) :
    (trace registry reporter c r compiled cache past).AgreesButFrames
      (trace registry reporter c r compiled cache' past) := by
  rw [trace_eq, trace_eq]
  apply afterStage_agreesButFrames
  intro p past
  exact finish_agreesButFrames registry reporter c cache cache' _ p past

theorem investigate_agreesButFrames [DomainForms] :
    (investigate registry reporter c cache).AgreesButFrames
      (investigate registry reporter c cache') := by
  rw [investigate_eq, investigate_eq]
  apply afterStage_agreesButFrames
  intro stack past
  rw [afterRetracing, afterRetracing]
  cases c.compiled? reporter.settings with
  | none => exact Outcome.agreesButFrames_of_report _ cache cache' past
  | some compiled => exact trace_agreesButFrames registry reporter c cache cache' _ compiled past

end

/-- Whatever two caches make of the code, the reports agree in every field but the two frames, and
the registry is asked the same. -/
theorem build_rendering_confined [DomainForms] (registry : Registry) (reporter : Reporter)
    (cache : HighlighterCache σ) (cache' : HighlighterCache τ) (incident : Incident)
    (request : ReportRequest) :
    let o := build registry reporter cache incident request
    let o' := build registry reporter cache' incident request
    o'.report =
        { o.report with
          authoredFrame := o'.report.authoredFrame
          compiledFrame := o'.report.compiledFrame } ∧
      o'.queries = o.queries := by
  intro o o'
  have hagrees : o.AgreesButFrames o' := by
    simp only [o, o', build]
    cases Hydration.diff? (Case.ofIncident reporter.settings incident request).primary.message with
    | some diff => exact ⟨ofHydration_agreesButFrames reporter _ cache cache' diff, rfl⟩
    | none => exact investigate_agreesButFrames registry reporter _ cache cache'
  exact ⟨hagrees.report, hagrees.queries⟩

end Report

end ErrorOrigin
