import ErrorOrigin.Proofs.InquiryAnswers
import ErrorOrigin.Resolution
import Mathlib.Tactic

/-!
# The order of resolution

Keys are looked up one after the other, and the first that is found ends the search, whatever a
scan would have brought up.  Only when every key is missed are the modules scored, and of those
that score best the first is taken.  A look-up that fails is a miss.  The answers of the registry
may change while it is asked, so each look-up is told with the queries before it.
-/

namespace ErrorOrigin

/-- The queries by which keys are missed. -/
def Query.lookUps (keys : List String) : List Query :=
  keys.flatMap fun key => [.byId key, .byUrl key]

namespace Registry

/-- Look-ups and scans have an answer, be it a failure. -/
def AnswersLookUps (r : Registry) : Prop :=
  ∀ past, (∀ key, (r.answer past (.byId key)).isSome = true) ∧
    (∀ key, (r.answer past (.byUrl key)).isSome = true) ∧ (r.answer past .modules).isSome = true

def byId? (r : Registry) (past : List Query) (key : String) : Option ServedModule :=
  (r.answer past (.byId key)).bind fun found => found.toOption.join

def byUrl? (r : Registry) (past : List Query) (key : String) : Option ServedModule :=
  (r.answer past (.byUrl key)).bind fun found => found.toOption.join

/-- The module that is found under a key: by identifier, else by address. -/
def found? (r : Registry) (past : List Query) (key : String) : Option ServedModule :=
  (r.byId? past key).or (r.byUrl? (past ++ [.byId key]) key)

/-- None of the keys is found, each looked up after those before it. -/
def Misses (r : Registry) : (past : List Query) → (keys : List String) → Prop
  | _, [] => True
  | past, key :: rest => r.found? past key = none ∧ r.Misses (past ++ [.byId key, .byUrl key]) rest

variable {r : Registry} {past : List Query} {key : String}

/-- Either no key is found, or there is a first one that is. -/
theorem misses_or_exists_found (r : Registry) (past : List Query) (keys : List String) :
    r.Misses past keys ∨ ∃ before key after m, keys = before ++ key :: after ∧
      r.Misses past before ∧ r.found? (past ++ Query.lookUps before) key = some m := by
  induction keys generalizing past with
  | nil => exact .inl trivial
  | cons key rest ih =>
      cases hfound : r.found? past key with
      | some m =>
          refine .inr ⟨[], key, rest, m, rfl, trivial, ?_⟩
          rw [Query.lookUps, List.flatMap_nil, List.append_nil]
          exact hfound
      | none =>
          rcases ih (past ++ [.byId key, .byUrl key]) with hrest | hrest
          · exact .inl ⟨hfound, hrest⟩
          · obtain ⟨before, next, after, m, hkeys, hbefore, hnext⟩ := hrest
            refine .inr ⟨key :: before, next, after, m, ?_, ⟨hfound, hbefore⟩, ?_⟩
            · rw [hkeys, List.cons_append]
            · rw [Query.lookUps, List.flatMap_cons, ← List.append_assoc]
              exact hnext

end Registry

namespace Resolution

variable {r : Registry} {past : List Query} {key : String} {m : ServedModule}

theorem run_lookUpUrl (hr : r.AnswersLookUps) (past : List Query) (key : String) :
    r.run (lookUpUrl key) past = (some (r.byUrl? past key), past ++ [.byUrl key]) := by
  obtain ⟨answer, hanswer⟩ := Option.isSome_iff_exists.mp ((hr past).2.1 key)
  rw [lookUpUrl, Registry.run_bind_of_run (Registry.run_query_of_answer hanswer),
    Registry.byUrl?, hanswer]
  cases answer <;> rfl

theorem run_lookUp_of_byId (hr : r.AnswersLookUps) (hid : r.byId? past key = some m) :
    r.run (lookUp key) past = (some (some m), past ++ [.byId key]) := by
  obtain ⟨answer, hanswer⟩ := Option.isSome_iff_exists.mp ((hr past).1 key)
  rw [lookUp, Registry.run_bind_of_run (Registry.run_query_of_answer hanswer)]
  rw [Registry.byId?, hanswer] at hid
  cases answer with
  | error reason => cases hid
  | ok found =>
      obtain rfl : found = some m := hid
      rfl

theorem run_lookUp_of_no_id (hr : r.AnswersLookUps) (hid : r.byId? past key = none) :
    r.run (lookUp key) past =
      (some (r.byUrl? (past ++ [.byId key]) key), past ++ [.byId key, .byUrl key]) := by
  obtain ⟨answer, hanswer⟩ := Option.isSome_iff_exists.mp ((hr past).1 key)
  have hurl := run_lookUpUrl hr (past ++ [.byId key]) key
  rw [List.append_assoc, List.singleton_append] at hurl
  rw [lookUp, Registry.run_bind_of_run (Registry.run_query_of_answer hanswer)]
  rw [Registry.byId?, hanswer] at hid
  cases answer with
  | error reason => exact hurl
  | ok found =>
      obtain rfl : found = none := hid
      exact hurl

theorem run_lookUp_of_missed (hr : r.AnswersLookUps) (hmissed : r.found? past key = none) :
    r.run (lookUp key) past = (some none, past ++ [.byId key, .byUrl key]) := by
  obtain ⟨hid, hurl⟩ := Option.or_eq_none_iff.mp hmissed
  rw [run_lookUp_of_no_id hr hid, hurl]

theorem run_firstHit_append (hr : r.AnswersLookUps) {before : List String}
    (hbefore : r.Misses past before) (rest : List String) :
    r.run (firstHit (before ++ rest)) past =
      r.run (firstHit rest) (past ++ Query.lookUps before) := by
  induction before generalizing past with
  | nil => rw [Query.lookUps, List.flatMap_nil, List.append_nil, List.nil_append]
  | cons key before ih =>
      rw [List.cons_append, firstHit,
        Registry.run_bind_of_run (run_lookUp_of_missed hr hbefore.1)]
      simp only
      rw [ih hbefore.2, Query.lookUps, Query.lookUps, List.flatMap_cons, List.append_assoc]

/-- The search ends with a key that is found. -/
theorem run_resolve_of_found (hr : r.AnswersLookUps) {candidates : CandidateSet}
    (scoring : Scoring) {before after : List String}
    (hkeys : candidates.keys = before ++ key :: after) (hbefore : r.Misses past before)
    {later : List Query}
    (hfound : r.run (lookUp key) (past ++ Query.lookUps before) = (some (some m), later)) :
    r.run (resolve candidates scoring) past = (some (some ⟨m, scoring.exact⟩), later) := by
  have hne : candidates.keys ≠ [] := by
    rw [hkeys]
    simp
  have hhit : r.run (firstHit candidates.keys) past = (some (some m), later) := by
    rw [hkeys, run_firstHit_append hr hbefore, firstHit, Registry.run_bind_of_run hfound]
    rfl
  rw [resolve, if_neg hne, Registry.run_bind_of_run hhit]
  rfl

theorem run_resolve_of_misses (hr : r.AnswersLookUps) {candidates : CandidateSet}
    (scoring : Scoring) (hne : candidates.keys ≠ []) (hmisses : r.Misses past candidates.keys) :
    ∃ modules, r.answer (past ++ Query.lookUps candidates.keys) .modules = some modules ∧
      r.run (resolve candidates scoring) past =
        (some (best? scoring candidates.keys modules),
          past ++ Query.lookUps candidates.keys ++ [.modules]) := by
  obtain ⟨modules, hmodules⟩ :=
    Option.isSome_iff_exists.mp (hr (past ++ Query.lookUps candidates.keys)).2.2
  have hhit : r.run (firstHit candidates.keys) past =
      (some none, past ++ Query.lookUps candidates.keys) := by
    have happend := run_firstHit_append hr hmisses []
    rwa [List.append_nil] at happend
  refine ⟨modules, hmodules, ?_⟩
  rw [resolve, if_neg hne, Registry.run_bind_of_run hhit]
  simp only
  rw [Registry.run_bind_of_run (Registry.run_query_of_answer hmodules)]
  rfl

end Resolution

/-! ## Scores -/

namespace ServedModule

def HasPath (m : ServedModule) (path : String) : Prop :=
  path ≠ "" ∧ (m.file = some path ∨ m.id = some path ∨ m.url = path)

/-- What the matches of a module with keys are worth, and nothing. -/
def worths (m : ServedModule) (scoring : Scoring) (keys : List String) : Set Nat :=
  {worth | worth = 0 ∨
    ∃ path key, m.HasPath path ∧ key ∈ keys ∧ worth = scoring.score path key}

theorem mem_paths_iff {m : ServedModule} {path : String} : path ∈ m.paths ↔ m.HasPath path := by
  have hpresent (s : Option String) :
      s.bind presentText? = some path ↔ s = some path ∧ path ≠ "" := by
    cases s with
    | none => simp
    | some s => simp [presentText?_eq_some_iff]
  simp only [paths, List.mem_filterMap, List.mem_cons, List.not_mem_nil, or_false,
    exists_eq_or_imp, exists_eq_left, hpresent, HasPath, Option.some.injEq]
  tauto

private theorem isGreatest_foldl_max (worths : List Nat) (start : Nat) :
    IsGreatest {worth | worth = start ∨ worth ∈ worths} (worths.foldl max start) := by
  induction worths generalizing start with
  | nil =>
      refine ⟨.inl rfl, ?_⟩
      rintro worth (rfl | hworth)
      · exact le_rfl
      · cases hworth
  | cons first rest ih =>
      obtain ⟨hmem, hbound⟩ := ih (max start first)
      have hstart : max start first ≤ rest.foldl max (max start first) := hbound (.inl rfl)
      refine ⟨?_, ?_⟩
      · rcases hmem with hmax | hrest
        · rcases max_choice start first with hchoice | hchoice
          · exact .inl (hmax.trans hchoice)
          · exact .inr (List.mem_cons.mpr (.inl (hmax.trans hchoice)))
        · exact .inr (List.mem_cons_of_mem first hrest)
      · rintro worth (rfl | hworth)
        · exact (le_max_left _ first).trans hstart
        · rcases List.mem_cons.mp hworth with rfl | hrest
          · exact (le_max_right start _).trans hstart
          · exact hbound (.inr hrest)

theorem isGreatest_score (m : ServedModule) (scoring : Scoring) (keys : List String) :
    IsGreatest (m.worths scoring keys) (m.score scoring keys) := by
  have hworths : m.worths scoring keys = {worth | worth = 0 ∨
      worth ∈ m.paths.flatMap fun path => keys.map (scoring.score path)} := by
    ext worth
    simp only [worths, Set.mem_ofPred_eq, List.mem_flatMap, List.mem_map, mem_paths_iff]
    constructor
    · rintro (hzero | ⟨path, key, hpath, hkey, rfl⟩)
      · exact .inl hzero
      · exact .inr ⟨path, hpath, key, hkey, rfl⟩
    · rintro (hzero | ⟨path, hpath, key, hkey, rfl⟩)
      · exact .inl hzero
      · exact .inr ⟨path, key, hpath, hkey, rfl⟩
  rw [hworths]
  exact isGreatest_foldl_max _ 0

end ServedModule

/-! ## The best module -/

namespace Resolution

/-- The first of the modules that score best, and better than nothing. -/
def IsFirstBest (score : ServedModule → Nat) (modules : List ServedModule) (m : ServedModule) :
    Prop :=
  0 < score m ∧ ∃ before after, modules = before ++ m :: after ∧
    (∀ other ∈ before, score other < score m) ∧ ∀ other ∈ after, score other ≤ score m

theorem IsFirstBest.le {score : ServedModule → Nat} {modules : List ServedModule}
    {m other : ServedModule} (hm : IsFirstBest score modules m) (hother : other ∈ modules) :
    score other ≤ score m := by
  obtain ⟨-, before, after, rfl, hbefore, hafter⟩ := hm
  rcases List.mem_append.mp hother with hother | hother
  · exact (hbefore other hother).le
  · rcases List.mem_cons.mp hother with rfl | hother
    · exact le_rfl
    · exact hafter other hother

/-- The outcome of a scan: nothing scores, or the first of the best was taken at its score. -/
def IsBest (score : ServedModule → Nat) (modules : List ServedModule) : Option Resolution → Prop
  | none => ∀ m ∈ modules, score m = 0
  | some best => best.score = score best.module ∧ IsFirstBest score modules best.module

/-- One more module: it is taken only if it scores better than all before it. -/
theorem IsBest.better {scoring : Scoring} {keys : List String} {modules : List ServedModule}
    {best : Option Resolution} (hbest : IsBest (·.score scoring keys) modules best)
    (m : ServedModule) :
    IsBest (·.score scoring keys) (modules ++ [m]) (better scoring keys best m) := by
  unfold Resolution.better
  cases best with
  | none =>
      rw [Option.elim_none]
      by_cases hpos : 0 < m.score scoring keys
      · rw [if_pos hpos]
        refine ⟨rfl, hpos, modules, [], rfl, ?_, by simp⟩
        intro other hother
        rwa [hbest other hother]
      · rw [if_neg hpos]
        intro other hother
        rcases List.mem_append.mp hother with hother | hother
        · exact hbest other hother
        · obtain rfl := List.mem_singleton.mp hother
          exact Nat.eq_zero_of_not_pos hpos
  | some best =>
      obtain ⟨hscore, hfirst⟩ := hbest
      rw [Option.elim_some, hscore]
      by_cases hlt : best.module.score scoring keys < m.score scoring keys
      · rw [if_pos hlt]
        refine ⟨rfl, hfirst.1.trans hlt, modules, [], rfl, ?_, by simp⟩
        intro other hother
        exact (hfirst.le hother).trans_lt hlt
      · rw [if_neg hlt]
        obtain ⟨hpos, before, after, rfl, hbefore, hafter⟩ := hfirst
        refine ⟨hscore, hpos, before, after ++ [m], by simp, hbefore, ?_⟩
        intro other hother
        rcases List.mem_append.mp hother with hother | hother
        · exact hafter other hother
        · obtain rfl := List.mem_singleton.mp hother
          exact Nat.le_of_not_lt hlt

theorem isBest_best? (scoring : Scoring) (keys : List String) (modules : List ServedModule) :
    IsBest (·.score scoring keys) modules (best? scoring keys modules) := by
  induction modules using List.reverseRecOn with
  | nil => exact fun m hm => absurd hm List.not_mem_nil
  | append_singleton before m ih =>
      rw [best?, List.foldl_append]
      exact ih.better m

theorem best?_eq_none_iff {scoring : Scoring} {keys : List String}
    {modules : List ServedModule} :
    best? scoring keys modules = none ↔ ∀ m ∈ modules, m.score scoring keys = 0 := by
  have hbest := isBest_best? scoring keys modules
  constructor
  · intro hnone
    rwa [hnone] at hbest
  · intro hzero
    rw [Option.eq_none_iff_forall_ne_some]
    intro best hsome
    rw [hsome] at hbest
    obtain ⟨-, hpos, before, after, hmodules, -⟩ := hbest
    exact hpos.ne' (hzero best.module (hmodules ▸ by simp))

/-- Without keys nothing is asked.  The first key that is found decides, by identifier before by
address, and nothing is asked after it.  Otherwise the modules are listed once, and the first of
those that score best is taken, if they score at all. -/
theorem resolve_in_order {r : Registry} (hr : r.AnswersLookUps) (candidates : CandidateSet)
    (scoring : Scoring) (past : List Query) :
    let keys := candidates.keys
    let run := r.run (resolve candidates scoring) past
    (keys = [] → run = (some none, past)) ∧
      (r.Misses past keys ∨ ∃ before key after m, keys = before ++ key :: after ∧
        r.Misses past before ∧ r.found? (past ++ Query.lookUps before) key = some m) ∧
      (∀ before key after m, keys = before ++ key :: after → r.Misses past before →
        let missed := past ++ Query.lookUps before
        (r.byId? missed key = some m →
          run = (some (some ⟨m, scoring.exact⟩), missed ++ [.byId key])) ∧
        (r.byId? missed key = none → r.byUrl? (missed ++ [.byId key]) key = some m →
          run = (some (some ⟨m, scoring.exact⟩), missed ++ [.byId key, .byUrl key]))) ∧
      (keys ≠ [] → r.Misses past keys → ∃ modules found,
        r.answer (past ++ Query.lookUps keys) .modules = some modules ∧
          run = (some found, past ++ Query.lookUps keys ++ [.modules]) ∧
          (found = none ↔ ∀ m ∈ modules, m.score scoring keys = 0) ∧
          ∀ best, found = some best → best.score = best.module.score scoring keys ∧
            IsFirstBest (·.score scoring keys) modules best.module) ∧
      ∀ m : ServedModule, IsGreatest (m.worths scoring keys) (m.score scoring keys) := by
  intro keys run
  refine ⟨?_, r.misses_or_exists_found past keys, ?_, ?_, ?_⟩
  · intro hnone
    change r.run (resolve candidates scoring) past = _
    rw [resolve, if_pos hnone]
    rfl
  · intro before key after m hkeys hbefore missed
    refine ⟨?_, ?_⟩
    · intro hid
      exact run_resolve_of_found hr scoring hkeys hbefore (run_lookUp_of_byId hr hid)
    · intro hid hurl
      apply run_resolve_of_found hr scoring hkeys hbefore
      rw [run_lookUp_of_no_id hr hid, hurl]
  · intro hne hmisses
    obtain ⟨modules, hmodules, hrun⟩ := run_resolve_of_misses hr scoring hne hmisses
    refine ⟨modules, best? scoring keys modules, hmodules, hrun, best?_eq_none_iff, ?_⟩
    intro best hbest
    have hisBest := isBest_best? scoring keys modules
    rwa [hbest] at hisBest
  · intro m
    exact m.isGreatest_score scoring keys

/-- Look-ups of one key fail.  The next key decides if there is one, and else the scan, in which the
second and the third module score alike. -/
theorem resolve_in_order_of_failing :
    let util : ServedModule := ⟨"/src/util.ts", none, none, none⟩
    let modules : List ServedModule :=
      [util, ⟨"/b.js", none, some "/work/src/main.ts", none⟩,
        ⟨"/c.js", some "/src/main.ts?v=1", none, none⟩]
    let r := (Registry.ofModules modules).failingLookups (· = "/src/main.ts") "unavailable"
    r.AnswersLookUps ∧
      r.run (resolve (.ofForms ["/src/main.ts", "/src/util.ts"]) {}) [] =
        (some (some ⟨util, 100⟩),
          [.byId "/src/main.ts", .byUrl "/src/main.ts", .byId "/src/util.ts",
            .byUrl "/src/util.ts"]) ∧
      ∃ best, IsFirstBest (·.score {} ["/src/main.ts"]) modules best.module ∧
        r.run (resolve (.ofForms ["/src/main.ts"]) {}) [] =
          (some (some best), [.byId "/src/main.ts", .byUrl "/src/main.ts", .modules]) := by
  intro util modules r
  have hr : r.AnswersLookUps := by
    intro past
    refine ⟨?_, ?_, rfl⟩
    · intro key
      simp only [r, Registry.failingLookups]
      split <;> rfl
    · intro key
      simp only [r, Registry.failingLookups]
      split <;> rfl
  have hmain : r.Misses [] ["/src/main.ts"] := ⟨by decide +kernel, trivial⟩
  obtain ⟨-, -, hfound, -⟩ :=
    resolve_in_order hr (.ofForms ["/src/main.ts", "/src/util.ts"]) {} []
  obtain ⟨-, -, -, hscan, -⟩ := resolve_in_order hr (.ofForms ["/src/main.ts"]) {} []
  obtain ⟨listed, found, hlisted, hrun, hnone, hbest⟩ := hscan (by decide) hmain
  cases hlisted
  refine ⟨hr, ?_, ?_⟩
  · exact (hfound ["/src/main.ts"] "/src/util.ts" [] util rfl hmain).2 (by decide +kernel)
      (by decide +kernel)
  · cases found with
    | none =>
        have hscores : ∃ m ∈ modules, m.score {} ["/src/main.ts"] ≠ 0 := by decide +kernel
        obtain ⟨m, hm, hscore⟩ := hscores
        exact absurd (hnone.mp rfl m hm) hscore
    | some best => exact ⟨best, (hbest best rfl).2, hrun⟩

end Resolution

end ErrorOrigin
