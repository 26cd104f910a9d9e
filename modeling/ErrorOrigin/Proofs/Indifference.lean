import ErrorOrigin.Report.Build
import Mathlib.Tactic

/-!
# Failures and misses

A registry may fail over a module, or know nothing of it.  An inquiry is indifferent if after every
query it goes on alike from both, which depends on what it does with the answer: wherever a query is
made, the arm for a failure has to go on as the one for a miss.  Indifference is kept by `bind`, and
an indifferent inquiry runs alike whether a registry fails or misses.
-/

namespace ErrorOrigin

variable {α β : Type}

/-- The answer with a failure over a module as a miss.  A file that cannot be read is no miss. -/
def Query.asMiss : (q : Query) → q.Answer → q.Answer
  | .byId _, .error _ => .ok none
  | .byUrl _, .error _ => .ok none
  | .transform _, .error _ => .ok none
  | _, answer => answer

/-- The registry that misses where this one fails, over some queries. -/
def Registry.missing (r : Registry) (misses : Query → Bool) : Registry where
  root := r.root
  answer past q := if misses q then (r.answer past q).map q.asMiss else r.answer past q

namespace Inquiry

/-- After every query the inquiry goes on alike from a failure and from a miss. -/
inductive Indifferent : Inquiry α → Prop
  | done (a : α) : Indifferent (.done a)
  | ask {q : Query} {next : q.Answer → Inquiry α}
      (hnext : ∀ answer, Indifferent (next answer))
      (hmiss : ∀ answer, next (q.asMiss answer) = next answer) : Indifferent (.ask q next)

theorem Indifferent.pure (a : α) : (Pure.pure a : Inquiry α).Indifferent :=
  .done a

theorem Indifferent.bind {i : Inquiry α} {f : α → Inquiry β} (hi : i.Indifferent)
    (hf : ∀ a, (f a).Indifferent) : (i >>= f).Indifferent := by
  induction hi with
  | done a => exact hf a
  | ask hnext hmiss ih =>
      refine Indifferent.ask ih ?_
      intro answer
      exact congrArg (· >>= f) (hmiss answer)

/-- A query is handled indifferently if the arm of a failure is that of a miss. -/
theorem Indifferent.query {q : Query} {f : q.Answer → Inquiry β}
    (hf : ∀ answer, (f answer).Indifferent) (hmiss : ∀ answer, f (q.asMiss answer) = f answer) :
    (Inquiry.query q >>= f).Indifferent :=
  Indifferent.ask hf hmiss

end Inquiry

/-- Indifferent inquiries come to the same result by the same queries. -/
theorem Registry.run_missing (r : Registry) (misses : Query → Bool) {i : Inquiry α}
    (hi : i.Indifferent) (past : List Query) : (r.missing misses).run i past = r.run i past := by
  induction hi generalizing past with
  | done a => rfl
  | @ask q next hnext hmiss ih =>
      have hanswer : (r.missing misses).answer past q =
          if misses q then (r.answer past q).map q.asMiss else r.answer past q := rfl
      rw [Registry.run, Registry.run, hanswer]
      cases r.answer past q with
      | none => simp
      | some answer =>
          by_cases hq : misses q = true
          · simp only [if_pos hq, Option.map_some, hmiss]
            exact ih answer (past ++ [q])
          · simp only [if_neg hq]
            exact ih answer (past ++ [q])

/-- An inquiry that tells a failure from a miss runs otherwise. -/
example :
    let r : Registry := Registry.failingLookups ⟨"", fun _ _ => none⟩ (fun _ => true) "down"
    let i : Inquiry Bool := do pure (← Inquiry.query (.byId "/a.js")).toOption.isSome
    r.run i [] = (some false, [.byId "/a.js"]) ∧
      (r.missing fun _ => true).run i [] = (some true, [.byId "/a.js"]) := by
  decide

/-! ## Modules -/

namespace Resolution

theorem lookUpUrl_indifferent (key : String) : (lookUpUrl key).Indifferent := by
  unfold lookUpUrl
  apply Inquiry.Indifferent.query
  · intro answer
    cases answer <;> exact .pure _
  · intro answer
    cases answer <;> rfl

theorem lookUp_indifferent (key : String) : (lookUp key).Indifferent := by
  unfold lookUp
  apply Inquiry.Indifferent.query
  · intro answer
    cases answer with
    | error reason => exact lookUpUrl_indifferent key
    | ok found =>
        cases found with
        | none => exact lookUpUrl_indifferent key
        | some m => exact .pure _
  · intro answer
    cases answer <;> rfl

theorem firstHit_indifferent (keys : List String) : (firstHit keys).Indifferent := by
  induction keys with
  | nil => exact .pure _
  | cons key rest ih =>
      unfold firstHit
      apply (lookUp_indifferent key).bind
      intro found
      cases found with
      | none => exact ih
      | some m => exact .pure _

theorem resolve_indifferent (candidates : CandidateSet) (scoring : Scoring) :
    (resolve candidates scoring).Indifferent := by
  unfold resolve
  split
  · exact .pure _
  · apply (firstHit_indifferent candidates.keys).bind
    intro found
    cases found with
    | none => exact Inquiry.Indifferent.query (fun _ => .pure _) fun _ => rfl
    | some m => exact .pure _

theorem resolveIdentifier_indifferent [DomainForms] (settings : Settings) (identifier : String) :
    (resolveIdentifier settings identifier).Indifferent :=
  resolve_indifferent ..

end Resolution

namespace ServedModule

theorem map?_indifferent (m : ServedModule) : m.map?.Indifferent := by
  unfold map?
  cases m.cachedMap? with
  | some map => exact .pure _
  | none =>
      cases m.transformKey? with
      | none => exact .pure _
      | some key =>
          apply Inquiry.Indifferent.query
          · intro answer
            cases answer <;> exact .pure _
          · intro answer
            cases answer <;> rfl

theorem locate_indifferent [DomainForms] (m : ServedModule) (p : Position) :
    (m.locate p).Indifferent := by
  unfold locate
  split
  · exact .pure _
  · apply m.map?_indifferent.bind
    intro found
    cases found with
    | none => exact .pure _
    | some map => exact .pure _

end ServedModule

namespace SourceTexts

theorem firstReadable_indifferent (files : List String) : (firstReadable files).Indifferent := by
  induction files with
  | nil => exact .pure _
  | cons file rest ih =>
      unfold firstReadable
      -- A file that cannot be read is never a miss, so only its own arm counts.
      refine Inquiry.Indifferent.query ?_ fun _ => rfl
      intro answer
      cases answer with
      | error reason => exact ih
      | ok text => exact .pure _

theorem afterTransform_indifferent (t : SourceTexts) (key : Option String) :
    (t.afterTransform key).Indifferent := by
  cases key with
  | none => exact .pure _
  | some key =>
      apply Inquiry.Indifferent.query
      · intro answer
        cases answer with
        | error reason => exact .pure _
        | ok found => cases found <;> exact .pure _
      · intro answer
        cases answer <;> rfl

theorem afterDisk_indifferent (t : SourceTexts) (files : List String) :
    (t.afterDisk files).Indifferent := by
  unfold afterDisk
  cases t.authored with
  | some text => exact .pure _
  | none => exact (firstReadable_indifferent files).bind fun _ => .pure _

theorem retrieve_indifferent [DomainForms] (root : String) (m : Option ServedModule) (path : String)
    (candidates : CandidateSet) : (retrieve root m path candidates).Indifferent := by
  unfold retrieve
  simp only
  split
  · exact .pure _
  · exact (afterTransform_indifferent _ _).bind fun t => t.afterDisk_indifferent _

end SourceTexts

namespace Stack

theorem Frame.retrace_indifferent [DomainForms] (settings : Settings) (f : Frame) :
    (f.retrace settings).Indifferent := by
  unfold Frame.retrace
  cases f.position? with
  | none => exact .pure _
  | some p =>
      apply (Resolution.resolveIdentifier_indifferent settings p.file).bind
      intro found
      cases found with
      | none => exact .pure _
      | some found => exact (found.module.locate_indifferent p).bind fun _ => .pure _

theorem retraceFrames_indifferent [DomainForms] (settings : Settings) (frames : List Frame) :
    (retraceFrames settings frames).Indifferent := by
  induction frames with
  | nil => exact .pure _
  | cons f rest ih =>
      unfold retraceFrames
      apply (f.retrace_indifferent settings).bind
      intro f
      exact ih.bind fun _ => .pure _

theorem retrace_indifferent [DomainForms] (settings : Settings) (stack : String)
    (header : Option Header) : (retrace settings stack header).Indifferent :=
  (retraceFrames_indifferent settings _).bind fun _ => .pure _

end Stack

/-! ## Reports -/

namespace Report

variable {σ : Type}

theorem provenance_indifferent [DomainForms] (settings : Settings) (isAuthored : Bool)
    (compiled : Position) :
    (provenance settings isAuthored compiled).Indifferent := by
  unfold provenance
  apply (Resolution.resolveIdentifier_indifferent settings compiled.file).bind
  intro found
  cases isAuthored with
  | true => exact .pure _
  | false =>
      cases found with
      | none => exact .pure _
      | some found => exact (found.module.locate_indifferent compiled).bind fun _ => .pure _

theorem texts_indifferent [DomainForms] (settings : Settings) (root : String) (p : Provenance) :
    (texts settings root p).Indifferent := by
  unfold texts
  simp only
  split
  · exact SourceTexts.retrieve_indifferent ..
  · apply (Resolution.resolveIdentifier_indifferent settings p.authored.file).bind
    intro found
    apply (SourceTexts.retrieve_indifferent ..).bind
    intro compiled
    exact (SourceTexts.retrieve_indifferent ..).bind fun _ => .pure _

theorem finish_missing [DomainForms] (registry : Registry) (misses : Query → Bool)
    (reporter : Reporter) (c : Case) (r : Report) (p : Provenance) (cache : HighlighterCache σ)
    (past : List Query) :
    finish (registry.missing misses) reporter c r p cache past =
      finish registry reporter c r p cache past := by
  have hroot : (registry.missing misses).root = registry.root := rfl
  unfold finish
  rw [hroot, registry.run_missing misses (texts_indifferent ..)]

theorem trace_missing [DomainForms] (registry : Registry) (misses : Query → Bool)
    (reporter : Reporter) (c : Case) (r : Report) (compiled : Position) (cache : HighlighterCache σ)
    (past : List Query) :
    trace (registry.missing misses) reporter c r compiled cache past =
      trace registry reporter c r compiled cache past := by
  unfold trace
  rw [registry.run_missing misses (provenance_indifferent ..)]
  simp only [finish_missing]

theorem investigate_missing [DomainForms] (registry : Registry) (misses : Query → Bool)
    (reporter : Reporter) (c : Case) (cache : HighlighterCache σ) :
    investigate (registry.missing misses) reporter c cache =
      investigate registry reporter c cache := by
  unfold investigate
  rw [registry.run_missing misses (Stack.retrace_indifferent ..)]
  simp only [trace_missing]

theorem build_missing [DomainForms] (registry : Registry) (misses : Query → Bool)
    (reporter : Reporter) (cache : HighlighterCache σ) (incident : Incident)
    (request : ReportRequest) :
    build (registry.missing misses) reporter cache incident request =
      build registry reporter cache incident request := by
  unfold build
  simp only [investigate_missing]

end Report

/-- A registry that misses where another fails cannot be told from it: neither by a report, with
the cache after it and the queries it takes, nor by an inquiry that reports are made of. -/
theorem Registry.missing_indistinguishable [DomainForms] (registry : Registry)
    (misses : Query → Bool) :
    (∀ {σ : Type} (reporter : Reporter) (cache : HighlighterCache σ) (incident : Incident)
        (request : ReportRequest),
      Report.build (registry.missing misses) reporter cache incident request =
        Report.build registry reporter cache incident request) ∧
      (∀ settings stack header past,
        (registry.missing misses).run (Stack.retrace settings stack header) past =
          registry.run (Stack.retrace settings stack header) past) ∧
      (∀ candidates scoring past,
        (registry.missing misses).run (Resolution.resolve candidates scoring) past =
          registry.run (Resolution.resolve candidates scoring) past) ∧
      (∀ (m : ServedModule) p past,
        (registry.missing misses).run (m.locate p) past = registry.run (m.locate p) past) ∧
      (∀ root m path candidates past,
        (registry.missing misses).run (SourceTexts.retrieve root m path candidates) past =
          registry.run (SourceTexts.retrieve root m path candidates) past) := by
  refine ⟨?_, ?_, ?_, ?_, ?_⟩
  · intro σ reporter cache incident request
    exact Report.build_missing registry misses reporter cache incident request
  · intro settings stack header past
    exact registry.run_missing misses (Stack.retrace_indifferent settings stack header) past
  · intro candidates scoring past
    exact registry.run_missing misses (Resolution.resolve_indifferent candidates scoring) past
  · intro m p past
    exact registry.run_missing misses (m.locate_indifferent p) past
  · intro root m path candidates past
    exact registry.run_missing misses
      (SourceTexts.retrieve_indifferent root m path candidates) past

end ErrorOrigin
