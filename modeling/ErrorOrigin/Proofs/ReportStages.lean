import ErrorOrigin.Proofs.InquiryRun
import ErrorOrigin.Report.Build
import Mathlib.Tactic

/-!
# Reports cut short

A report is filled in stage by stage, and each stage writes only after its queries have been
answered.  So when the registry breaks down, the report is the whole one with the fields of that
stage and of the later ones taken back.  The invariant of each stage is that the report so far
has no other fields than those of the stages before.
-/

namespace ErrorOrigin.Report

variable {σ : Type}

inductive Stage where
  | retracing
  | locating
  | quoting
deriving DecidableEq, Repr

/-- What a report already holds when a stage begins to ask. -/
def upTo (r : Report) : Stage → Report
  | .retracing =>
      { name := r.name
        message := r.message
        compiledStack := r.compiledStack
        errorCount := r.errorCount
        plugin := r.plugin }
  | .locating =>
      { name := r.name
        message := r.message
        compiledStack := r.compiledStack
        errorCount := r.errorCount
        plugin := r.plugin
        retracedStack := r.retracedStack
        compiledFile := r.compiledFile
        compiledLine := r.compiledLine
        compiledColumn := r.compiledColumn }
  | .quoting =>
      { name := r.name
        message := r.message
        compiledStack := r.compiledStack
        errorCount := r.errorCount
        plugin := r.plugin
        retracedStack := r.retracedStack
        compiledFile := r.compiledFile
        compiledLine := r.compiledLine
        compiledColumn := r.compiledColumn
        authoredFile := r.authoredFile
        authoredLine := r.authoredLine
        authoredColumn := r.authoredColumn }

/-! ## The queries of each stage -/

/-- The queries of a stage, and those that follow if it comes to a result. -/
def stageLog {α : Type} (registry : Registry) (stage : Stage) (i : Inquiry α)
    (past : List Query) (rest : α → List Query → List (Stage × Query)) : List (Stage × Query) :=
  (registry.asked i past).map (stage, ·) ++
    match registry.run i past with
    | (none, _) => []
    | (some a, past) => rest a past

def quotingLog [DomainForms] (registry : Registry) (reporter : Reporter) (p : Provenance)
    (past : List Query) : List (Stage × Query) :=
  stageLog registry .quoting (texts reporter.settings registry.root p) past fun _ _ => []

def locatingLog [DomainForms] (registry : Registry) (reporter : Reporter) (c : Case)
    (compiled : Position) (past : List Query) : List (Stage × Query) :=
  stageLog registry .locating (provenance reporter.settings c.adapted?.isSome compiled) past
    fun p past => quotingLog registry reporter p past

def retracingLog [DomainForms] (registry : Registry) (reporter : Reporter) (c : Case) :
    List (Stage × Query) :=
  stageLog registry .retracing (Stack.retrace reporter.settings c.stack (some c.header)) []
    fun _ past =>
      match c.compiled? reporter.settings with
      | none => []
      | some compiled => locatingLog registry reporter c compiled past

/-- The queries that a report takes, each with the stage that makes it. -/
def log [DomainForms] (registry : Registry) (reporter : Reporter) (incident : Incident)
    (request : ReportRequest) : List (Stage × Query) :=
  let c := Case.ofIncident reporter.settings incident request
  match Hydration.diff? c.primary.message with
  | some _ => []
  | none => retracingLog registry reporter c

/-! ## Cutting off -/

/-- The stage of the first query over which a registry breaks down. -/
def brokenStage? (breaks : String → Bool) (log : List (Stage × Query)) : Option Stage :=
  (log.find? fun entry => entry.2.isBreaking breaks).map Prod.fst

/-- A broken outcome is a normal one cut off at the first breaking query of a log, which lists the
queries made after past ones. -/
structure IsCutOff (breaks : String → Bool) (cache : HighlighterCache σ) (past : List Query)
    (log : List (Stage × Query)) (normal broken : Outcome σ) : Prop where
  queries : normal.queries = past ++ log.map Prod.snd
  cutQueries : broken.queries = past ++ Query.untilBreak breaks (log.map Prod.snd)
  unbroken : brokenStage? breaks log = none → broken = normal
  cut : ∀ stage, brokenStage? breaks log = some stage →
    broken.report = normal.report.upTo stage ∧ broken.cache = cache

theorem brokenStage?_of_any {breaks : String → Bool} {queries : List Query} (stage : Stage)
    (rest : List (Stage × Query)) (hany : queries.any (Query.isBreaking breaks) = true) :
    brokenStage? breaks (queries.map (stage, ·) ++ rest) = some stage := by
  obtain ⟨q, hq, hbreak⟩ := List.any_eq_true.mp hany
  have hsome : (queries.find? (Query.isBreaking breaks)).isSome = true := by
    rw [List.find?_isSome]
    exact ⟨q, hq, hbreak⟩
  obtain ⟨first, hfirst⟩ := Option.isSome_iff_exists.mp hsome
  rw [brokenStage?, List.find?_append, List.find?_map]
  simp [hfirst]

theorem brokenStage?_of_none {breaks : String → Bool} {queries : List Query} (stage : Stage)
    (rest : List (Stage × Query)) (hnone : queries.any (Query.isBreaking breaks) = false) :
    brokenStage? breaks (queries.map (stage, ·) ++ rest) = brokenStage? breaks rest := by
  have hfind : queries.find? (Query.isBreaking breaks) = none := by
    rw [List.find?_eq_none]
    exact List.any_eq_false.mp hnone
  rw [brokenStage?, List.find?_append, List.find?_map]
  simp [hfind, brokenStage?]

theorem map_snd_append (stage : Stage) (queries : List Query) (rest : List (Stage × Query)) :
    (queries.map (stage, ·) ++ rest).map Prod.snd = queries ++ rest.map Prod.snd := by
  simp

theorem IsCutOff.refl (breaks : String → Bool) (cache : HighlighterCache σ) {past : List Query}
    {outcome : Outcome σ} (hqueries : outcome.queries = past) :
    IsCutOff breaks cache past [] outcome outcome :=
  ⟨by simp [hqueries], by simp [hqueries, Query.untilBreak], fun _ => rfl,
    by simp [brokenStage?]⟩

/-- A stage through which the registry gets. -/
theorem IsCutOff.prepend {breaks : String → Bool} {cache : HighlighterCache σ}
    {past queries : List Query} {rest : List (Stage × Query)} {normal broken : Outcome σ}
    (stage : Stage) (hnone : queries.any (Query.isBreaking breaks) = false)
    (hrest : IsCutOff breaks cache (past ++ queries) rest normal broken) :
    IsCutOff breaks cache past (queries.map (stage, ·) ++ rest) normal broken := by
  have hstage := brokenStage?_of_none stage rest hnone
  refine ⟨?_, ?_, ?_, ?_⟩
  · rw [map_snd_append, ← List.append_assoc]
    exact hrest.queries
  · rw [map_snd_append, Query.untilBreak_append_of_none _ hnone, ← List.append_assoc]
    exact hrest.cutQueries
  · rw [hstage]
    exact hrest.unbroken
  · rw [hstage]
    exact hrest.cut

/-- A stage in which the registry breaks down, whatever would have followed. -/
theorem IsCutOff.of_any {breaks : String → Bool} {cache : HighlighterCache σ}
    {past queries : List Query} {rest : List (Stage × Query)} {normal other : Outcome σ}
    {r : Report} (stage : Stage) (hany : queries.any (Query.isBreaking breaks) = true)
    (hrest : IsCutOff breaks cache (past ++ queries) rest normal other)
    (hr : normal.report.upTo stage = r) :
    IsCutOff breaks cache past (queries.map (stage, ·) ++ rest) normal
      ⟨r, cache, past ++ Query.untilBreak breaks queries⟩ := by
  have hstage := brokenStage?_of_any stage rest hany
  refine ⟨?_, ?_, ?_, ?_⟩
  · rw [map_snd_append, ← List.append_assoc]
    exact hrest.queries
  · rw [map_snd_append, Query.untilBreak_append_of_any _ hany]
  · intro hnone
    rw [hstage] at hnone
    cases hnone
  · intro struck hstruck
    rw [hstage, Option.some.injEq] at hstruck
    subst struck
    exact ⟨hr.symm, rfl⟩

/-- What becomes of a report after a stage: it goes on from a result, or stays as it is. -/
def afterStage {α : Type} (found : Option α × List Query) (r : Report)
    (cache : HighlighterCache σ) (next : α → List Query → Outcome σ) : Outcome σ :=
  match found with
  | (none, past) => ⟨r, cache, past⟩
  | (some a, past) => next a past

theorem afterStage_upTo {α : Type} (found : Option α × List Query) {r : Report}
    (cache : HighlighterCache σ) {next : α → List Query → Outcome σ} {stage : Stage}
    (hnext : ∀ a past, (next a past).report.upTo stage = r.upTo stage) :
    (afterStage found r cache next).report.upTo stage = r.upTo stage := by
  obtain ⟨found, past⟩ := found
  cases found with
  | none => rfl
  | some a => exact hnext a past

/-- The step lemma: if what follows a stage is cut off rightly, so is the stage with it. -/
theorem afterStage_isCutOff {α : Type} (registry : Registry) (breaks : String → Bool)
    {stage : Stage} {i : Inquiry α} {past : List Query} {r : Report}
    {cache : HighlighterCache σ} {rest : α → List Query → List (Stage × Query)}
    {next next' : α → List Query → Outcome σ} (hr : r.upTo stage = r)
    (hnext : ∀ a past, (next a past).report.upTo stage = r.upTo stage)
    (hrest : ∀ a past, IsCutOff breaks cache past (rest a past) (next a past) (next' a past)) :
    IsCutOff breaks cache past (stageLog registry stage i past rest)
      (afterStage (registry.run i past) r cache next)
      (afterStage ((registry.breakingTransforms breaks).run i past) r cache next') := by
  have hkept : (afterStage (registry.run i past) r cache next).report.upTo stage = r := by
    rw [afterStage_upTo _ cache hnext, hr]
  have hfollowing : IsCutOff breaks cache (past ++ registry.asked i past)
      (match registry.run i past with
        | (none, _) => []
        | (some a, past) => rest a past)
      (afterStage (registry.run i past) r cache next)
      (afterStage (registry.run i past) r cache next') := by
    have hpast := registry.run_snd i past
    cases hrun : registry.run i past with
    | mk found queries =>
        rw [hrun] at hpast
        have hqueries : queries = past ++ registry.asked i past := hpast
        subst hqueries
        cases found with
        | none => exact IsCutOff.refl breaks cache rfl
        | some a => exact hrest a _
  rw [stageLog]
  by_cases hany : (registry.asked i past).any (Query.isBreaking breaks) = true
  · rw [Registry.run_breakingTransforms_of_any hany]
    exact hfollowing.of_any stage hany hkept
  · have hnone := Bool.eq_false_iff.mpr hany
    rw [Registry.run_breakingTransforms_of_none hnone]
    exact hfollowing.prepend stage hnone

/-! ## All stages -/

theorem finish_eq [DomainForms] (registry : Registry) (reporter : Reporter) (c : Case) (r : Report)
    (p : Provenance) (cache : HighlighterCache σ) (past : List Query) :
    finish registry reporter c r p cache past =
      afterStage (registry.run (texts reporter.settings registry.root p) past) r cache
        fun t past =>
          ⟨(withCode reporter c r p t cache).1, (withCode reporter c r p t cache).2, past⟩ := by
  unfold finish afterStage
  cases registry.run (texts reporter.settings registry.root p) past with
  | mk found queries => cases found <;> rfl

theorem trace_eq [DomainForms] (registry : Registry) (reporter : Reporter) (c : Case) (r : Report)
    (compiled : Position) (cache : HighlighterCache σ) (past : List Query) :
    trace registry reporter c r compiled cache past =
      afterStage
        (registry.run (provenance reporter.settings c.adapted?.isSome compiled) past)
        (r.withCompiled compiled) cache
        fun p past =>
          finish registry reporter c ((r.withCompiled compiled).withAuthored p.authored) p cache
            past := by
  unfold trace afterStage
  cases registry.run (provenance reporter.settings c.adapted?.isSome compiled) past with
  | mk found queries => cases found <;> rfl

def afterRetracing [DomainForms] (registry : Registry) (reporter : Reporter) (c : Case)
    (cache : HighlighterCache σ) (stack : String) (past : List Query) : Outcome σ :=
  let r := { c.opening with retracedStack := stack }
  match c.compiled? reporter.settings with
  | none => ⟨withoutCode reporter c r, cache, past⟩
  | some compiled => trace registry reporter c r compiled cache past

theorem investigate_eq [DomainForms] (registry : Registry) (reporter : Reporter) (c : Case)
    (cache : HighlighterCache σ) :
    investigate registry reporter c cache =
      afterStage (registry.run (Stack.retrace reporter.settings c.stack (some c.header)) [])
        c.opening cache (afterRetracing registry reporter c cache) := by
  unfold investigate afterStage
  cases registry.run (Stack.retrace reporter.settings c.stack (some c.header)) [] with
  | mk found queries => cases found <;> rfl

theorem finish_upTo [DomainForms] (registry : Registry) (reporter : Reporter) (c : Case)
    (r : Report) (p : Provenance) (cache : HighlighterCache σ) (past : List Query) (stage : Stage) :
    (finish registry reporter c r p cache past).report.upTo stage = r.upTo stage := by
  rw [finish_eq]
  apply afterStage_upTo
  intro t queries
  cases stage <;> rfl

theorem finish_isCutOff [DomainForms] (registry : Registry) (reporter : Reporter)
    (breaks : String → Bool)
    (c : Case) {r : Report} (p : Provenance) (cache : HighlighterCache σ) (past : List Query)
    (hr : r.upTo .quoting = r) :
    IsCutOff breaks cache past (quotingLog registry reporter p past)
      (finish registry reporter c r p cache past)
      (finish (registry.breakingTransforms breaks) reporter c r p cache past) := by
  rw [finish_eq, finish_eq, quotingLog]
  apply afterStage_isCutOff registry breaks hr
  · intro t queries
    rfl
  · intro t queries
    exact IsCutOff.refl breaks cache rfl

theorem trace_upTo_retracing [DomainForms] (registry : Registry) (reporter : Reporter) (c : Case)
    (r : Report) (compiled : Position) (cache : HighlighterCache σ) (past : List Query) :
    (trace registry reporter c r compiled cache past).report.upTo .retracing =
      r.upTo .retracing := by
  rw [trace_eq]
  refine (afterStage_upTo _ cache ?_).trans rfl
  intro p queries
  rw [finish_upTo]
  rfl

theorem trace_isCutOff [DomainForms] (registry : Registry) (reporter : Reporter)
    (breaks : String → Bool)
    (c : Case) {r : Report} (compiled : Position) (cache : HighlighterCache σ)
    (past : List Query) (hr : (r.withCompiled compiled).upTo .locating = r.withCompiled compiled) :
    IsCutOff breaks cache past (locatingLog registry reporter c compiled past)
      (trace registry reporter c r compiled cache past)
      (trace (registry.breakingTransforms breaks) reporter c r compiled cache past) := by
  rw [trace_eq, trace_eq, locatingLog]
  apply afterStage_isCutOff registry breaks hr
  · intro p queries
    rw [finish_upTo]
    rfl
  · intro p queries
    apply finish_isCutOff
    rw [← hr]
    rfl

theorem investigate_isCutOff [DomainForms] (registry : Registry) (reporter : Reporter)
    (breaks : String → Bool) (c : Case) (cache : HighlighterCache σ) :
    IsCutOff breaks cache [] (retracingLog registry reporter c)
      (investigate registry reporter c cache)
      (investigate (registry.breakingTransforms breaks) reporter c cache) := by
  rw [investigate_eq, investigate_eq, retracingLog]
  apply afterStage_isCutOff registry breaks rfl
  · intro stack queries
    rw [afterRetracing]
    cases c.compiled? reporter.settings with
    | none => rfl
    | some compiled => exact trace_upTo_retracing ..
  · intro stack queries
    rw [afterRetracing, afterRetracing]
    cases c.compiled? reporter.settings with
    | none => exact IsCutOff.refl breaks cache rfl
    | some compiled => exact trace_isCutOff registry reporter breaks c compiled cache queries rfl

/-- A registry that breaks down over some transforms is asked the same queries up to the first of
them.  If there is none the outcome is the same; otherwise the report is the whole one up to the
stage of that query, with defaults from there on. -/
theorem build_breakingTransforms [DomainForms] (registry : Registry) (reporter : Reporter)
    (cache : HighlighterCache σ) (incident : Incident) (request : ReportRequest)
    (breaks : String → Bool) :
    let normal := build registry reporter cache incident request
    let broken := build (registry.breakingTransforms breaks) reporter cache incident request
    let queries := log registry reporter incident request
    normal.queries = queries.map Prod.snd ∧
      broken.queries = Query.untilBreak breaks normal.queries ∧
      match queries.find? fun entry => entry.2.isBreaking breaks with
      | none => broken = normal
      | some (stage, _) => broken.report = normal.report.upTo stage ∧ broken.cache = cache := by
  intro normal broken queries
  have hcut : IsCutOff breaks cache [] queries normal broken := by
    simp only [normal, broken, queries, build, log]
    cases Hydration.diff? (Case.ofIncident reporter.settings incident request).primary.message with
    | some diff => exact IsCutOff.refl breaks cache rfl
    | none => exact investigate_isCutOff registry reporter breaks _ cache
  refine ⟨hcut.queries, ?_, ?_⟩
  · rw [hcut.cutQueries, hcut.queries]
    rfl
  · cases hfirst : queries.find? fun entry => entry.2.isBreaking breaks with
    | none => exact hcut.unbroken (by simp [brokenStage?, hfirst])
    | some entry => exact hcut.cut entry.1 (by simp [brokenStage?, hfirst])

end ErrorOrigin.Report
