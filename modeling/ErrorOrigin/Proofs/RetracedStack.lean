import ErrorOrigin.Address.Label
import ErrorOrigin.Proofs.FramePosition
import ErrorOrigin.Proofs.InquiryAnswers
import ErrorOrigin.Proofs.StackText
import ErrorOrigin.Stack.Retrace
import Mathlib.Tactic

/-!
# Retracing twice

A frame is settled if every module found for it leaves it where it is.  Retracing does nothing to
settled frames, so a stack that is read back as the frames it was written from, all of them
settled, is retraced to itself.
-/

namespace ErrorOrigin.Stack

variable {registry : Registry} {settings : Settings}

theorem run_retraceFrames_cons [DomainForms] {f : Frame} {rest frames : List Frame}
    {past later : List Query}
    (hrun : registry.run (retraceFrames settings (f :: rest)) past = (some frames, later)) :
    ∃ moved between others,
      registry.run (f.retrace settings) past = (some moved, between) ∧
        registry.run (retraceFrames settings rest) between = (some others, later) ∧
        frames = moved :: others := by
  rw [retraceFrames, Registry.run_bind_eq_some_iff] at hrun
  obtain ⟨moved, between, hmoved, hrun⟩ := hrun
  rw [Registry.run_bind_eq_some_iff] at hrun
  obtain ⟨others, later', hothers, hrun⟩ := hrun
  obtain ⟨hframes, rfl⟩ := Prod.mk.inj hrun
  exact ⟨moved, between, others, hmoved, hothers, (Option.some.inj hframes).symm⟩

theorem length_of_run_retraceFrames [DomainForms] {frames retraced : List Frame}
    {past later : List Query}
    (hrun : registry.run (retraceFrames settings frames) past = (some retraced, later)) :
    retraced.length = frames.length := by
  induction frames generalizing retraced past with
  | nil =>
      cases hrun
      rfl
  | cons f rest ih =>
      obtain ⟨moved, between, others, _, hothers, rfl⟩ := run_retraceFrames_cons hrun
      rw [List.length_cons, List.length_cons, ih hothers]

theorem run_retrace_eq_some_iff [DomainForms] {stack text : String} {header : Option Header}
    {past later : List Query} :
    registry.run (retrace settings stack header) past = (some text, later) ↔
      ∃ frames,
        registry.run (retraceFrames settings (read stack settings.frameLimit)) past =
          (some frames, later) ∧ text = write frames header := by
  rw [retrace, Registry.run_bind_eq_some_iff]
  constructor
  · rintro ⟨frames, between, hframes, hrun⟩
    obtain ⟨htext, rfl⟩ := Prod.mk.inj hrun
    exact ⟨frames, hframes, (Option.some.inj htext).symm⟩
  · rintro ⟨frames, hframes, rfl⟩
    exact ⟨frames, later, hframes, rfl⟩

/-- After these queries, every module that is found for the frame locates it where it is. -/
def Frame.IsSettled [DomainForms] (registry : Registry) (settings : Settings) (past : List Query)
    (f : Frame) : Prop :=
  ∀ p, f.IsAt p → ∀ more found between located later,
    registry.run (Resolution.resolveIdentifier settings p.file) (past ++ more) =
      (some (some found), between) →
    registry.run (found.module.locate p) between = (some located, later) → located = p

theorem Frame.IsSettled.append [DomainForms] {past : List Query} {f : Frame}
    (hf : f.IsSettled registry settings past) (asked : List Query) :
    f.IsSettled registry settings (past ++ asked) := by
  intro p hp more found between located later hfound hlocated
  rw [List.append_assoc] at hfound
  exact hf p hp (asked ++ more) found between located later hfound hlocated

theorem Frame.IsSettled.retrace [DomainForms] {past later : List Query} {f moved : Frame}
    (hf : f.IsSettled registry settings past)
    (hrun : registry.run (f.retrace settings) past = (some moved, later)) : moved = f := by
  unfold Frame.retrace at hrun
  cases hposition : f.position? with
  | none =>
      rw [hposition] at hrun
      cases hrun
      rfl
  | some p =>
      have hp : f.IsAt p := Frame.position?_eq_some_iff.mp hposition
      simp only [hposition, Registry.run_bind_eq_some_iff] at hrun
      obtain ⟨found, between, hfound, hrun⟩ := hrun
      cases found with
      | none =>
          cases hrun
          rfl
      | some found =>
          simp only [Registry.run_bind_eq_some_iff] at hrun
          obtain ⟨located, later', hlocated, hrun⟩ := hrun
          have hfoundAfter : registry.run (Resolution.resolveIdentifier settings p.file)
              (past ++ []) = (some (some found), between) := by
            rw [List.append_nil]
            exact hfound
          obtain rfl := hf p hp [] found between located later' hfoundAfter hlocated
          cases hrun
          exact Frame.moveTo_of_isAt hp

/-- Under fixed answers a frame is settled as soon as it is retraced to itself. -/
theorem Frame.isSettled_of_value [DomainForms] {answer : (q : Query) → q.Answer}
    (hregistry : registry.Answers answer) {f : Frame}
    (hf : (f.retrace settings).value answer = f) (past : List Query) :
    f.IsSettled registry settings past := by
  intro p hp more found between located later hfound hlocated
  have hfoundValue := hregistry.value_eq (congrArg Prod.fst hfound)
  have hlocatedValue := hregistry.value_eq (congrArg Prod.fst hlocated)
  have hmoved : f.moveTo located = f := by
    simpa [Frame.retrace, Frame.position?_eq_some_iff.mpr hp, hfoundValue, hlocatedValue] using hf
  exact Frame.eq_of_moveTo_eq_self hp hmoved

theorem retraceFrames_of_settled [DomainForms] {frames retraced : List Frame}
    {past later : List Query} (hframes : ∀ f ∈ frames, f.IsSettled registry settings past)
    (hrun : registry.run (retraceFrames settings frames) past = (some retraced, later)) :
    retraced = frames := by
  induction frames generalizing retraced past with
  | nil =>
      cases hrun
      rfl
  | cons f rest ih =>
      obtain ⟨moved, between, others, hmoved, hothers, rfl⟩ := run_retraceFrames_cons hrun
      -- The rest is retraced after the queries for this frame, and is still settled then.
      have hasked : between = past ++ registry.asked (f.retrace settings) past := by
        rw [← Registry.run_snd, hmoved]
      have hrest : ∀ g ∈ rest, g.IsSettled registry settings between := by
        intro g hg
        rw [hasked]
        exact (hframes g (List.mem_cons_of_mem f hg)).append _
      rw [(hframes f List.mem_cons_self).retrace hmoved, ih hrest hothers]

/-- A retraced stack whose frames are read back as they are written, and are settled, is retraced
to itself, whenever the registry is asked again and does not break down. -/
theorem retrace_of_settled [DomainForms] {stack : String} {header : Option Header}
    {past later : List Query} {frames : List Frame}
    (hframes : registry.run (retraceFrames settings (read stack settings.frameLimit)) past =
      (some frames, later))
    (hread : ∀ f ∈ frames, read (write [f] none) 1 = [f])
    (hsettled : ∀ f ∈ frames, f.IsSettled registry settings later)
    (hheader : ∀ h, header = some h → read h.write settings.frameLimit = []) :
    let text := write frames header
    registry.run (retrace settings stack header) past = (some text, later) ∧
      ∀ more,
        (∀ text', (registry.run (retrace settings text header) (later ++ more)).1 =
          some text' → text' = text) ∧
        (registry.AnswersAfter (later ++ more) →
          (registry.run (retrace settings text header) (later ++ more)).1 = some text) := by
  intro text
  have hlimit : frames.length ≤ settings.frameLimit := by
    rw [length_of_run_retraceFrames hframes, Stack.read]
    exact List.length_take_le _ _
  have hback : read text settings.frameLimit = frames := read_write hread hheader hlimit
  refine ⟨run_retrace_eq_some_iff.mpr ⟨frames, hframes, rfl⟩, ?_⟩
  intro more
  have hsame : ∀ text', (registry.run (retrace settings text header) (later ++ more)).1 =
      some text' → text' = text := by
    intro text' htext'
    obtain ⟨retraced, hretraced, rfl⟩ := run_retrace_eq_some_iff.mp (Prod.ext htext' rfl)
    rw [hback] at hretraced
    have hkept := retraceFrames_of_settled (fun f hf => (hsettled f hf).append more) hretraced
    rw [hkept]
  refine ⟨hsame, ?_⟩
  intro hanswers
  obtain ⟨text', asked, hrun⟩ := hanswers.exists_run (retrace settings text header)
  have htext' : (registry.run (retrace settings text header) (later ++ more)).1 =
      some text' := by
    rw [hrun]
  rw [htext', hsame text' htext']

/-- Of the two modules found, the one that is found again has no map. -/
theorem retrace_of_settled_unmapped :
    let map : SourceMap := ⟨3, none, none, [some "/app/App.tsx"], none, [], ";;QASU"⟩
    let modules : List ServedModule :=
      [⟨"/src/App.tsx", none, none, some ⟨"", some map⟩⟩, ⟨"/src/plain.js", none, none, none⟩]
    let registry := Registry.ofModules modules
    let header := some ⟨"TypeError", "boom"⟩
    let stack :=
      "TypeError: boom\n    at native\n    at render (/src/App.tsx:3:9)\n    at /src/plain.js:4:2"
    let text :=
      "TypeError: boom\n    at native\n    at render (/app/App.tsx:10:11)\n    at /src/plain.js:4:2"
    ∃ later,
      registry.run (retrace .exactOnly stack header) [] = (some text, later) ∧
        (registry.run (retrace .exactOnly text header) later).1 = some text := by
  intro map modules registry header stack text
  have hregistry : registry.Answers (ServedModule.answer modules) :=
    Registry.ofModules_answers modules
  let frames : List Frame :=
    [⟨some "native", none, none, none⟩, ⟨some "/app/App.tsx", some 10, some 11, some "render"⟩,
      ⟨some "/src/plain.js", some 4, some 2, none⟩]
  let inquiry := retraceFrames .exactOnly (read stack Settings.exactOnly.frameLimit)
  have hframes : registry.run inquiry [] = (some frames, (registry.run inquiry []).2) := by
    refine Prod.ext ?_ rfl
    rw [hregistry.run_fst]
    decide +kernel
  have hread : ∀ f ∈ frames, read (write [f] none) 1 = [f] := by
    decide +kernel
  have hkept : ∀ f ∈ frames, (f.retrace .exactOnly).value (ServedModule.answer modules) = f := by
    decide +kernel
  have hheader : ∀ h, header = some h → read h.write Settings.exactOnly.frameLimit = [] := by
    intro h hh
    cases Option.some.inj hh
    decide +kernel
  have htext : write frames header = text := by
    decide +kernel
  obtain ⟨hfirst, hagain⟩ :=
    retrace_of_settled hframes hread
      (fun f hf => f.isSettled_of_value hregistry (hkept f hf) _) hheader
  rw [htext] at hfirst hagain
  refine ⟨_, hfirst, ?_⟩
  simpa using (hagain []).2 (hregistry.answersAfter _)

end ErrorOrigin.Stack
