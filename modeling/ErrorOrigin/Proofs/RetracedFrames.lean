import ErrorOrigin.Address.Label
import ErrorOrigin.Proofs.LocatedPosition
import ErrorOrigin.Proofs.RetracedPosition
import ErrorOrigin.Proofs.RetracedStack
import Mathlib.Tactic

/-!
# Retracing frame by frame

What becomes of a frame is told for each frame alone: nothing if it is nowhere, if no module is
found for it or if the map of its module has no place for it, and else it is moved, its function
kept.  A stack is retraced one frame after the other, so the frames of two stacks below each other
become what they become apart, each by the queries that are made for it.
-/

namespace ErrorOrigin

/-- A map is missing, cannot be read or covers nothing at this position. -/
def ServedModule.LeadsNowhere (p : Position) : Option SourceMap → Prop
  | none => True
  | some map => ∀ t, map.trace = .ok t → t.origin? p.line (p.column - 1) = none

theorem ServedModule.LeadsTo.eq_of_leadsNowhere [DomainForms] {p located : Position}
    {map : Option SourceMap}
    (hleads : LeadsTo p map located) (hnowhere : LeadsNowhere p map) : located = p := by
  cases hleads with
  | unmapped => rfl
  | rejected => rfl
  | uncovered => rfl
  | mapped htrace horigin =>
      rw [hnowhere _ htrace] at horigin
      cases horigin

namespace Stack

variable {registry : Registry} {settings : Settings} {past : List Query}

/-- A part of the position is missing, or does not count from one. -/
def Frame.IsNowhere (f : Frame) : Prop :=
  f.file.getD "" = "" ∨ (∀ l, f.line = some l → l ≤ 0 ∨ Position.greatest < l) ∨
    ∀ c, f.column = some c → c ≤ 0 ∨ Position.greatest < c

theorem Frame.isNowhere_iff {f : Frame} : f.IsNowhere ↔ ∀ p, ¬f.IsAt p := by
  constructor
  · rintro hnowhere p ⟨hfile, hline, hcolumn, hp⟩
    rcases hnowhere with hnone | hnone | hnone
    · rw [hfile] at hnone
      exact hp.file_ne hnone
    · have hl := hnone _ hline
      have hone := hp.one_le_line
      have hgreatest := hp.line_le
      omega
    · have hc := hnone _ hcolumn
      have hone := hp.one_le_column
      have hgreatest := hp.column_le
      omega
  · intro hnever
    by_contra hsomewhere
    simp only [IsNowhere, not_or, not_forall, not_le, not_lt] at hsomewhere
    obtain ⟨hfile, ⟨l, hline, hl, hlMax⟩, c, hcolumn, hc, hcMax⟩ := hsomewhere
    obtain ⟨file, hsome⟩ : ∃ file, f.file = some file := by
      rw [← Option.ne_none_iff_exists']
      intro hnone
      exact hfile (by rw [hnone]; rfl)
    rw [hsome, Option.getD_some] at hfile
    apply hnever ⟨file, l.toNat, c.toNat⟩
    refine ⟨hsome, ?_, ?_, hfile, ?_, ?_, ?_, ?_⟩
    · rw [hline, Int.toNat_of_nonneg hl.le]
    · rw [hcolumn, Int.toNat_of_nonneg hc.le]
    all_goals
      dsimp only
      omega

/-- What becomes of a frame after past queries, and the queries this takes. -/
inductive Frame.Becomes [DomainForms] (registry : Registry) (settings : Settings)
    (past : List Query) (f : Frame) : Frame → List Query → Prop where
  | nowhere : f.IsNowhere → Becomes registry settings past f f []
  | unserved {p : Position} {asked : List Query} : f.IsAt p →
      registry.run (Resolution.resolveIdentifier settings p.file) past =
        (some none, past ++ asked) →
      Becomes registry settings past f f asked
  | served {p located : Position} {found : Resolution} {map : Option SourceMap}
      {sought obtained : List Query} : f.IsAt p →
      registry.run (Resolution.resolveIdentifier settings p.file) past =
        (some (some found), past ++ sought) →
      found.module.Obtains registry (past ++ sought) map obtained →
      ServedModule.LeadsTo p map located →
      Becomes registry settings past f (f.moveTo located) (sought ++ obtained)

theorem Frame.exists_of_run_retrace [DomainForms] {f moved : Frame} {later : List Query}
    (hrun : registry.run (f.retrace settings) past = (some moved, later)) :
    ∃ asked, f.Becomes registry settings past moved asked ∧ later = past ++ asked := by
  unfold retrace at hrun
  cases hposition : f.position? with
  | none =>
      rw [hposition] at hrun
      cases hrun
      exact ⟨[], .nowhere (isNowhere_iff.mpr (position?_eq_none_iff.mp hposition)), by simp⟩
  | some p =>
      have hp : f.IsAt p := position?_eq_some_iff.mp hposition
      simp only [hposition, Registry.run_bind_eq_some_iff] at hrun
      obtain ⟨found, between, hfound, hrun⟩ := hrun
      have hsought : between =
          past ++ registry.asked (Resolution.resolveIdentifier settings p.file) past := by
        rw [← Registry.run_snd, hfound]
      cases found with
      | none =>
          cases hrun
          exact ⟨_, .unserved hp (hsought ▸ hfound), hsought⟩
      | some found =>
          obtain ⟨located, later', hlocated, hrun⟩ := Registry.run_bind_eq_some_iff.mp hrun
          cases hrun
          have hline : p.line ≠ 0 := Nat.one_le_iff_ne_zero.mp hp.2.2.2.one_le_line
          have hcolumn : p.column ≠ 0 := Nat.one_le_iff_ne_zero.mp hp.2.2.2.one_le_column
          obtain ⟨map, obtained, hobtains, hleads, rfl⟩ :=
            ServedModule.exists_of_run_locate hline hcolumn hlocated
          rw [hsought] at hfound hobtains
          exact ⟨_, .served hp hfound hobtains hleads, by rw [hsought, List.append_assoc]⟩

theorem Frame.Becomes.run_retrace [DomainForms] {f moved : Frame} {asked : List Query}
    (h : f.Becomes registry settings past moved asked) :
    registry.run (f.retrace settings) past = (some moved, past ++ asked) := by
  unfold retrace
  cases h with
  | nowhere hnowhere =>
      rw [position?_eq_none_iff.mpr (isNowhere_iff.mp hnowhere), List.append_nil]
      rfl
  | unserved hp hfound =>
      rw [position?_eq_some_iff.mpr hp]
      exact Registry.run_bind_of_run hfound _
  | served hp hfound hobtains hleads =>
      have hline := Nat.one_le_iff_ne_zero.mp hp.2.2.2.one_le_line
      have hcolumn := Nat.one_le_iff_ne_zero.mp hp.2.2.2.one_le_column
      have hlocated := hobtains.run_locate hline hcolumn hleads
      rw [position?_eq_some_iff.mpr hp, ← List.append_assoc]
      simp only
      rw [Registry.run_bind_of_run hfound]
      exact Registry.run_bind_of_run hlocated _

namespace Frame.Becomes

variable {f moved : Frame} {asked : List Query}

/-- Nothing but the registry, the settings and the frame decides what becomes of it. -/
theorem unique [DomainForms] (h : f.Becomes registry settings past moved asked) {moved' : Frame}
    {asked' : List Query} (h' : f.Becomes registry settings past moved' asked') :
    moved = moved' ∧ asked = asked' := by
  have hruns := h.run_retrace.symm.trans h'.run_retrace
  rwa [Prod.mk.injEq, Option.some.injEq, List.append_cancel_left_eq] at hruns

theorem function_eq [DomainForms] (h : f.Becomes registry settings past moved asked) :
    moved.function = f.function := by
  cases h <;> rfl

theorem of_isNowhere [DomainForms] (h : f.Becomes registry settings past moved asked)
    (hf : f.IsNowhere) : moved = f ∧ asked = [] :=
  h.unique (.nowhere hf)

theorem eq_of_unserved [DomainForms] (h : f.Becomes registry settings past moved asked)
    {p : Position} (hp : f.IsAt p)
    (hnone : (registry.run (Resolution.resolveIdentifier settings p.file) past).1 = some none) :
    moved = f := by
  let inquiry := Resolution.resolveIdentifier settings p.file
  have hfound : registry.run inquiry past = (some none, past ++ registry.asked inquiry past) :=
    Prod.ext hnone (registry.run_snd inquiry past)
  exact (h.unique (.unserved hp hfound)).1

theorem eq_of_leadsNowhere [DomainForms] (h : f.Becomes registry settings past moved asked)
    {p : Position}
    (hp : f.IsAt p) {found : Resolution} {map : Option SourceMap} {sought obtained : List Query}
    (hfound : registry.run (Resolution.resolveIdentifier settings p.file) past =
      (some (some found), past ++ sought))
    (hobtains : found.module.Obtains registry (past ++ sought) map obtained)
    (hnowhere : ServedModule.LeadsNowhere p map) : moved = f := by
  have hleads := ServedModule.leadsTo_iff.mpr (rfl : (map.bind _).getD p = _)
  rw [(h.unique (.served hp hfound hobtains hleads)).1, hleads.eq_of_leadsNowhere hnowhere,
    Frame.moveTo_of_isAt hp]

end Frame.Becomes

/-! ## Many frames -/

/-- What becomes of frames one after the other, and the queries this takes. -/
inductive Become [DomainForms] (registry : Registry) (settings : Settings) :
    (past : List Query) → (frames moved : List Frame) → (asked : List Query) → Prop where
  | nil {past : List Query} : Become registry settings past [] [] []
  | cons {past asked more : List Query} {f moved : Frame} {rest others : List Frame} :
      f.Becomes registry settings past moved asked →
      Become registry settings (past ++ asked) rest others more →
      Become registry settings past (f :: rest) (moved :: others) (asked ++ more)

theorem Become.run_retraceFrames [DomainForms] {frames moved : List Frame} {asked : List Query}
    (h : Become registry settings past frames moved asked) :
    registry.run (retraceFrames settings frames) past = (some moved, past ++ asked) := by
  induction h with
  | nil =>
      rw [List.append_nil]
      rfl
  | cons hfirst hrest ih =>
      rw [retraceFrames, Registry.run_bind_of_run hfirst.run_retrace, ← List.append_assoc]
      exact Registry.run_bind_of_run ih _

theorem run_retraceFrames_eq_some_iff [DomainForms] {frames moved : List Frame}
    {later : List Query} :
    registry.run (retraceFrames settings frames) past = (some moved, later) ↔
      ∃ asked, Become registry settings past frames moved asked ∧ later = past ++ asked := by
  constructor
  · intro hrun
    induction frames generalizing past moved with
    | nil =>
        cases hrun
        exact ⟨[], .nil, by simp⟩
    | cons f rest ih =>
        obtain ⟨first, between, others, hfirst, hothers, rfl⟩ := run_retraceFrames_cons hrun
        obtain ⟨asked, hbecomes, rfl⟩ := Frame.exists_of_run_retrace hfirst
        obtain ⟨more, hbecome, rfl⟩ := ih hothers
        exact ⟨asked ++ more, .cons hbecomes hbecome, by rw [List.append_assoc]⟩
  · rintro ⟨asked, hbecome, rfl⟩
    exact hbecome.run_retraceFrames

theorem become_append_iff [DomainForms] {frames more moved : List Frame} {asked : List Query} :
    Become registry settings past (frames ++ more) moved asked ↔
      ∃ first asked₁ others asked₂, Become registry settings past frames first asked₁ ∧
        Become registry settings (past ++ asked₁) more others asked₂ ∧
        moved = first ++ others ∧ asked = asked₁ ++ asked₂ := by
  induction frames generalizing past moved asked with
  | nil =>
      constructor
      · intro h
        exact ⟨[], [], moved, asked, .nil, by rwa [List.append_nil], rfl, rfl⟩
      · rintro ⟨_, _, others, asked₂, ⟨⟩, hmore, rfl, rfl⟩
        rwa [List.append_nil] at hmore
  | cons f rest ih =>
      constructor
      · intro h
        cases h with
        | cons hfirst hrest =>
            obtain ⟨front, asked₁, others, asked₂, hfront, hmore, rfl, rfl⟩ := ih.mp hrest
            rw [List.append_assoc] at hmore
            exact ⟨_, _, others, asked₂, .cons hfirst hfront, hmore, rfl,
              by rw [List.append_assoc]⟩
      · rintro ⟨first, asked₁, others, asked₂, h, hmore, rfl, rfl⟩
        cases h with
        | cons hfirst hrest =>
            rw [← List.append_assoc] at hmore
            rw [List.append_assoc, List.cons_append, List.cons_append]
            exact .cons hfirst (ih.mpr ⟨_, _, others, asked₂, hrest, hmore, rfl, rfl⟩)

theorem Become.length_and_functions [DomainForms] {frames moved : List Frame} {asked : List Query}
    (h : Become registry settings past frames moved asked) :
    moved.length = frames.length ∧ moved.map (·.function) = frames.map (·.function) := by
  induction h with
  | nil => exact ⟨rfl, rfl⟩
  | cons hfirst hrest ih =>
      rw [List.length_cons, List.length_cons, List.map_cons, List.map_cons, ih.1, ih.2,
        hfirst.function_eq]
      exact ⟨rfl, rfl⟩

/-! ## Stacks -/

theorem read_append {s₁ s₂ : String} {limit : Nat}
    (hlimit : (read s₁ limit).length + (read s₂ limit).length ≤ limit) :
    read (s₁ ++ "\n" ++ s₂) limit = read s₁ limit ++ read s₂ limit := by
  have hchars : (s₁ ++ "\n" ++ s₂).toList = s₁.toList ++ '\n' :: s₂.toList := by
    simp
  simp only [read_eq, List.length_take] at hlimit
  rw [read_eq, read_eq, read_eq, hchars, framesOf_append, List.take_append]
  congr 1
  rw [List.take_eq_take_iff]
  omega

theorem run_retrace_none_iff [DomainForms] {stack text : String} {later : List Query} :
    registry.run (retrace settings stack none) past = (some text, later) ↔
      ∃ moved asked, Become registry settings past (read stack settings.frameLimit) moved asked ∧
        text = write moved none ∧ later = past ++ asked := by
  rw [run_retrace_eq_some_iff]
  constructor
  · rintro ⟨moved, hframes, rfl⟩
    obtain ⟨asked, hbecome, rfl⟩ := run_retraceFrames_eq_some_iff.mp hframes
    exact ⟨moved, asked, hbecome, rfl, rfl⟩
  · rintro ⟨moved, asked, hbecome, rfl, rfl⟩
    exact ⟨moved, hbecome.run_retraceFrames, rfl⟩

/-- Under fixed answers every frame becomes one frame, wherever in a stack it is. -/
theorem exists_line [DomainForms] {answer : (q : Query) → q.Answer}
    (hregistry : registry.Answers answer) (settings : Settings) :
    ∃ line : Frame → Frame,
      (∀ past (f : Frame), ∃ asked, f.Becomes registry settings past (line f) asked) ∧
        ∀ past stack, (registry.run (retrace settings stack none) past).1 =
          some (write ((read stack settings.frameLimit).map line) none) := by
  refine ⟨fun f => (f.retrace settings).value answer, ?_, ?_⟩
  · intro past f
    have hmoved := hregistry.run_fst (f.retrace settings) past
    obtain ⟨asked, hbecomes, -⟩ := Frame.exists_of_run_retrace (Prod.ext hmoved rfl)
    exact ⟨asked, hbecomes⟩
  · intro past stack
    rw [hregistry.run_fst, value_retrace, value_retraceFrames]

/-- Two stacks below each other are retraced to the frames of the one above those of the other, as
long as they are not too many.  What becomes of a frame depends on nothing but the registry, the
settings and the frame, keeps its function, and leaves the frame as it is where nothing is found. -/
theorem retrace_frame_by_frame [DomainForms] (registry : Registry) (settings : Settings)
    (s₁ s₂ : String)
    (hlimit : (read s₁ settings.frameLimit).length + (read s₂ settings.frameLimit).length ≤
      settings.frameLimit) :
    let frames := fun stack => read stack settings.frameLimit
    let both := retrace settings (s₁ ++ "\n" ++ s₂) none
    (∀ past text later, registry.run both past = (some text, later) ↔
      ∃ first asked others more,
        Become registry settings past (frames s₁) first asked ∧
          Become registry settings (past ++ asked) (frames s₂) others more ∧
          text = write (first ++ others) none ∧ later = past ++ asked ++ more) ∧
      (∀ past stack text later,
        registry.run (retrace settings stack none) past = (some text, later) ↔
          ∃ moved asked, Become registry settings past (frames stack) moved asked ∧
            text = write moved none ∧ later = past ++ asked) ∧
      (∀ past, registry.AnswersAfter past →
        ∃ text later, registry.run both past = (some text, later)) ∧
      (∀ answer, registry.Answers answer → ∃ line : Frame → Frame,
        (∀ past (f : Frame), ∃ asked, f.Becomes registry settings past (line f) asked) ∧
          (∀ past, (registry.run both past).1 =
            some (write ((frames s₁).map line ++ (frames s₂).map line) none)) ∧
          ∀ past stack, (registry.run (retrace settings stack none) past).1 =
            some (write ((frames stack).map line) none)) ∧
      (∀ past (before moved : List Frame) asked, Become registry settings past before moved asked →
        moved.length = before.length ∧ moved.map (·.function) = before.map (·.function)) ∧
      ∀ past (f moved : Frame) asked, f.Becomes registry settings past moved asked →
        (∀ moved' asked', f.Becomes registry settings past moved' asked' →
          moved = moved' ∧ asked = asked') ∧
        moved.function = f.function ∧
        (f.IsNowhere → moved = f ∧ asked = []) ∧
        (∀ p : Position, f.IsAt p →
          (registry.run (Resolution.resolveIdentifier settings p.file) past).1 = some none →
          moved = f) ∧
        ∀ (p : Position) found map sought obtained, f.IsAt p →
          registry.run (Resolution.resolveIdentifier settings p.file) past =
            (some (some found), past ++ sought) →
          found.module.Obtains registry (past ++ sought) map obtained →
          ServedModule.LeadsNowhere p map → moved = f := by
  intro frames both
  have hread : read (s₁ ++ "\n" ++ s₂) settings.frameLimit = frames s₁ ++ frames s₂ :=
    read_append hlimit
  refine ⟨?_, fun _ _ _ _ => run_retrace_none_iff, ?_, ?_, fun _ _ _ _ h => h.length_and_functions,
    ?_⟩
  · intro past text later
    rw [run_retrace_none_iff, hread]
    constructor
    · rintro ⟨moved, asked, hbecome, rfl, rfl⟩
      obtain ⟨first, asked₁, others, asked₂, hfirst, hothers, rfl, rfl⟩ :=
        become_append_iff.mp hbecome
      exact ⟨first, asked₁, others, asked₂, hfirst, hothers, rfl, by rw [List.append_assoc]⟩
    · rintro ⟨first, asked₁, others, asked₂, hfirst, hothers, rfl, rfl⟩
      exact ⟨_, _, become_append_iff.mpr ⟨_, _, _, _, hfirst, hothers, rfl, rfl⟩, rfl,
        by rw [List.append_assoc]⟩
  · intro past hanswers
    obtain ⟨text, asked, hrun⟩ := hanswers.exists_run both
    exact ⟨text, past ++ asked, hrun⟩
  · intro answer hregistry
    obtain ⟨line, hline, hstack⟩ := exists_line hregistry settings
    refine ⟨line, hline, ?_, hstack⟩
    intro past
    rw [hstack, hread, List.map_append]
  · intro past f moved asked h
    exact ⟨fun _ _ h' => h.unique h', h.function_eq, h.of_isNowhere,
      fun _ hp hnone => h.eq_of_unserved hp hnone,
      fun _ _ _ _ _ hp hfound hobtains hnowhere =>
        h.eq_of_leadsNowhere hp hfound hobtains hnowhere⟩

/-- Of five frames in two dialects only the second is moved. -/
theorem retrace_frame_by_frame_of_two_dialects :
    let map : SourceMap := ⟨3, none, none, [some "/app/App.tsx"], none, [], ";;QASU"⟩
    let modules : List ServedModule :=
      [⟨"/src/App.tsx", none, none, some ⟨"", some map⟩⟩, ⟨"/src/plain.js", none, none, none⟩]
    let registry := Registry.ofModules modules
    let s₁ := "TypeError: boom\n    at native\n    at render (/src/App.tsx:3:9)"
    let s₂ := "f@/src/plain.js:4:2\n    at g (/src/App.tsx:0:0)\n  at h (/gone.js:1:1)"
    let text :=
      "    at native\n    at render (/app/App.tsx:10:11)\n    at f (/src/plain.js:4:2)\n" ++
        "    at g (/src/App.tsx:0:0)\n    at h (/gone.js:1:1)"
    let frames := fun stack => read stack Settings.exactOnly.frameLimit
    (frames s₁).length + (frames s₂).length ≤ Settings.exactOnly.frameLimit ∧
      ∃ first asked others more,
        Become registry .exactOnly [] (frames s₁) first asked ∧
          Become registry .exactOnly asked (frames s₂) others more ∧
          text = write (first ++ others) none := by
  intro map modules registry s₁ s₂ text frames
  have hlimit :
      (frames s₁).length + (frames s₂).length ≤ Settings.exactOnly.frameLimit := by
    decide +kernel
  let both := retrace .exactOnly (s₁ ++ "\n" ++ s₂) none
  have htext : (registry.run both []).1 = some text := by
    rw [(Registry.ofModules_answers modules).run_fst]
    decide +kernel
  obtain ⟨hruns, -⟩ := retrace_frame_by_frame registry .exactOnly s₁ s₂ hlimit
  obtain ⟨first, asked, others, more, hfirst, hothers, hwritten, -⟩ :=
    (hruns [] text _).mp (Prod.ext htext (registry.run_snd both []))
  exact ⟨hlimit, first, asked, others, more, hfirst, hothers, hwritten⟩

end Stack

end ErrorOrigin
