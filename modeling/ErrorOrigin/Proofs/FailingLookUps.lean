import ErrorOrigin.Proofs.ResolutionOrder
import ErrorOrigin.Registry.Memory
import Mathlib.Tactic

/-!
# Stores whose look-ups fail

A store lists every module that it indexes, and indexes it only under keys that are paths of it.  So
what a look-up finds is met by the scan as well, where it matches the same key exactly, and no path
scores better.  The score that a resolution reports is therefore the one of the scan, whichever
look-ups have found something and whichever have failed.
-/

namespace ErrorOrigin

namespace ModuleStore

def ofModules (modules : List ServedModule) : ModuleStore :=
  modules.foldl insert empty

/-- What is found under a key is listed, and the key is a path of it. -/
structure IndexesListed (s : ModuleStore) : Prop where
  byId : ∀ key m, s.byId[key]? = some m → m ∈ s.modules ∧ m.HasPath key
  byUrl : ∀ key m, s.byUrl[key]? = some m → m ∈ s.modules ∧ m.HasPath key

theorem getElem?_index (entries : Std.HashMap String ServedModule) (key : String)
    (m : ServedModule) (other : String) :
    (index entries key m)[other]? =
      if key = other ∧ key ≠ "" then some m else entries[other]? := by
  unfold index
  by_cases hempty : key = ""
  · rw [if_pos hempty, if_neg (fun h => h.2 hempty)]
  · rw [if_neg hempty, Std.HashMap.getElem?_insert]
    simp [hempty]

theorem empty_indexesListed : empty.IndexesListed := by
  constructor <;> simp [empty]

theorem IndexesListed.insert {s : ModuleStore} (hs : s.IndexesListed) (m : ServedModule) :
    (s.insert m).IndexesListed := by
  have hlisted : ∀ other ∈ s.modules, other ∈ (s.insert m).modules := by
    intro other hother
    exact List.mem_append_left [m] hother
  have hm : m ∈ (s.insert m).modules := List.mem_append_right s.modules (List.mem_singleton_self m)
  constructor
  · intro key found hfound
    rw [ModuleStore.insert, getElem?_index] at hfound
    split at hfound
    next hkey =>
      obtain rfl : m = found := Option.some.inj hfound
      have hid : m.id = some (m.id.getD "") := by
        cases hid : m.id with
        | none => simp [hid] at hkey
        | some id => rfl
      exact ⟨hm, hkey.1 ▸ hkey.2, .inr (.inl (hid.trans (congrArg some hkey.1)))⟩
    next =>
      obtain ⟨hmem, hpath⟩ := hs.byId key found hfound
      exact ⟨hlisted found hmem, hpath⟩
  · intro key found hfound
    rw [ModuleStore.insert, getElem?_index] at hfound
    split at hfound
    next hkey =>
      obtain rfl : m = found := Option.some.inj hfound
      exact ⟨hm, hkey.1 ▸ hkey.2, .inr (.inr hkey.1)⟩
    next =>
      obtain ⟨hmem, hpath⟩ := hs.byUrl key found hfound
      exact ⟨hlisted found hmem, hpath⟩

theorem IndexesListed.foldl_insert {s : ModuleStore} (hs : s.IndexesListed)
    (modules : List ServedModule) : (modules.foldl ModuleStore.insert s).IndexesListed := by
  induction modules generalizing s with
  | nil => exact hs
  | cons m rest ih => exact ih (hs.insert m)

theorem modules_foldl_insert (s : ModuleStore) (modules : List ServedModule) :
    (modules.foldl insert s).modules = s.modules ++ modules := by
  induction modules generalizing s with
  | nil => rw [List.foldl_nil, List.append_nil]
  | cons m rest ih =>
      rw [List.foldl_cons, ih]
      simp [insert]

theorem ofModules_indexesListed (modules : List ServedModule) :
    (ofModules modules).IndexesListed :=
  empty_indexesListed.foldl_insert modules

theorem modules_ofModules (modules : List ServedModule) :
    (ofModules modules).modules = modules :=
  modules_foldl_insert empty modules

end ModuleStore

/-! ## Registries that find what they list -/

/-- The registry lists these modules, and whatever it finds under a key is one of them that has the
key as a path. -/
structure Registry.FindsListed (r : Registry) (modules : List ServedModule) : Prop where
  answers : r.AnswersLookUps
  lists : ∀ past, r.answer past .modules = some modules
  found : ∀ past key m, r.found? past key = some m → m ∈ modules ∧ m.HasPath key

theorem ModuleStore.found?_registry (s : ModuleStore) (root : String)
    (files : String → Except RegistryError String) (past : List Query) (key : String) :
    (s.registry root files).found? past key = s.byId[key]?.or s.byUrl[key]? :=
  rfl

theorem ModuleStore.IndexesListed.findsListed {s : ModuleStore} (hs : s.IndexesListed)
    (root : String) (files : String → Except RegistryError String) :
    (s.registry root files).FindsListed s.modules := by
  constructor
  · exact fun past => ⟨fun key => rfl, fun key => rfl, rfl⟩
  · exact fun past => rfl
  · intro past key m hfound
    rw [s.found?_registry] at hfound
    rcases Option.or_eq_some_iff.mp hfound with hid | ⟨-, hurl⟩
    · exact hs.byId key m hid
    · exact hs.byUrl key m hurl

namespace Registry

variable {r : Registry} {modules : List ServedModule}

theorem byId?_failingLookups (fails : String → Bool) (reason : String) (past : List Query)
    (key : String) :
    (r.failingLookups fails reason).byId? past key =
      if fails key then none else r.byId? past key := by
  simp only [byId?, failingLookups]
  split <;> rfl

theorem byUrl?_failingLookups (fails : String → Bool) (reason : String) (past : List Query)
    (key : String) :
    (r.failingLookups fails reason).byUrl? past key =
      if fails key then none else r.byUrl? past key := by
  simp only [byUrl?, failingLookups]
  split <;> rfl

theorem FindsListed.failingLookups (hr : r.FindsListed modules) (fails : String → Bool)
    (reason : String) : (r.failingLookups fails reason).FindsListed modules := by
  constructor
  · intro past
    obtain ⟨hid, hurl, hmodules⟩ := hr.answers past
    refine ⟨?_, ?_, hmodules⟩
    · intro key
      simp only [Registry.failingLookups]
      split
      · rfl
      · exact hid key
    · intro key
      simp only [Registry.failingLookups]
      split
      · rfl
      · exact hurl key
  · exact hr.lists
  · intro past key m hfound
    rw [found?, byId?_failingLookups, byUrl?_failingLookups] at hfound
    by_cases hfails : fails key = true
    · simp [hfails] at hfound
    · rw [if_neg hfails, if_neg hfails] at hfound
      exact hr.found past key m hfound

end Registry

/-! ## Exact matches -/

theorem Scoring.score_le_exact {scoring : Scoring} (hscoring : scoring.substring ≤ scoring.exact)
    (path key : String) : scoring.score path key ≤ scoring.exact := by
  unfold score
  split_ifs <;> omega

namespace ServedModule

variable {m : ServedModule} {keys : List String} {scoring : Scoring}

theorem score_le_exact (m : ServedModule) (keys : List String)
    (hscoring : scoring.substring ≤ scoring.exact) : m.score scoring keys ≤ scoring.exact := by
  obtain ⟨hworth, -⟩ := m.isGreatest_score scoring keys
  rcases hworth with hzero | ⟨path, key, -, -, hscore⟩
  · rw [hzero]
    exact Nat.zero_le _
  · rw [hscore]
    exact scoring.score_le_exact hscoring path key

theorem HasPath.score_eq_exact {key : String} (hpath : m.HasPath key) (hkey : key ∈ keys)
    (hscoring : scoring.substring ≤ scoring.exact) : m.score scoring keys = scoring.exact := by
  have hexact : scoring.score key key = scoring.exact := by
    simp [Scoring.score, hpath.1]
  obtain ⟨-, hbound⟩ := m.isGreatest_score scoring keys
  exact (m.score_le_exact keys hscoring).antisymm
    (hbound (.inr ⟨key, key, hpath, hkey, hexact.symm⟩))

theorem score_of_no_keys (m : ServedModule) (scoring : Scoring) : m.score scoring [] = 0 := by
  obtain ⟨hworth, -⟩ := m.isGreatest_score scoring []
  rcases hworth with hzero | ⟨path, key, -, hkey, -⟩
  · exact hzero
  · cases hkey

end ServedModule

namespace Resolution

variable {r : Registry} {modules : List ServedModule} {past : List Query}

/-- A scan that meets an exact match reports its score, if perhaps for another module. -/
theorem score_best?_of_hasPath {m : ServedModule} (hm : m ∈ modules) {key : String}
    (hpath : m.HasPath key) {keys : List String} (hkey : key ∈ keys) {scoring : Scoring}
    (hexact : 0 < scoring.exact) (hscoring : scoring.substring ≤ scoring.exact) :
    (best? scoring keys modules).map (·.score) = some scoring.exact := by
  have hscore := hpath.score_eq_exact hkey hscoring
  have hbest := isBest_best? scoring keys modules
  cases hscan : best? scoring keys modules with
  | none =>
      have hzero := best?_eq_none_iff.mp hscan m hm
      rw [hscore] at hzero
      exact absurd hzero hexact.ne'
  | some best =>
      rw [hscan] at hbest
      obtain ⟨hown, hfirst⟩ := hbest
      have hge : scoring.exact ≤ best.module.score scoring keys := hscore ▸ hfirst.le hm
      have hle := best.module.score_le_exact keys hscoring
      have hbestScore : best.score = scoring.exact := hown.trans (hle.antisymm hge)
      rw [Option.map_some, hbestScore]

theorem run_lookUp_of_found (hr : r.AnswersLookUps) {key : String} {m : ServedModule}
    (hfound : r.found? past key = some m) :
    ∃ later, r.run (lookUp key) past = (some (some m), later) := by
  rcases Option.or_eq_some_iff.mp hfound with hid | ⟨hid, hurl⟩
  · exact ⟨_, run_lookUp_of_byId hr hid⟩
  · have hrun := run_lookUp_of_no_id hr hid
    rw [hurl] at hrun
    exact ⟨_, hrun⟩

/-- The score that is reported is the one of the scan, be it made or not. -/
theorem exists_run_resolve_score (hr : r.FindsListed modules) (candidates : CandidateSet)
    {scoring : Scoring} (hexact : 0 < scoring.exact)
    (hscoring : scoring.substring ≤ scoring.exact) (past : List Query) :
    ∃ found, (r.run (resolve candidates scoring) past).1 = some found ∧
      found.map (·.score) = (best? scoring candidates.keys modules).map (·.score) := by
  by_cases hnone : candidates.keys = []
  · refine ⟨none, ?_, ?_⟩
    · rw [resolve, if_pos hnone]
      rfl
    · have hscan : best? scoring candidates.keys modules = none := by
        rw [best?_eq_none_iff, hnone]
        exact fun m _ => m.score_of_no_keys scoring
      rw [hscan]
  · rcases r.misses_or_exists_found past candidates.keys with hmisses | hhit
    · obtain ⟨listed, hlisted, hrun⟩ := run_resolve_of_misses hr.answers scoring hnone hmisses
      rw [hr.lists, Option.some.injEq] at hlisted
      rw [hrun, hlisted]
      exact ⟨_, rfl, rfl⟩
    · obtain ⟨before, key, after, m, hkeys, hbefore, hfound⟩ := hhit
      obtain ⟨later, hlookUp⟩ := run_lookUp_of_found hr.answers hfound
      obtain ⟨hm, hpath⟩ := hr.found _ key m hfound
      have hkey : key ∈ candidates.keys := by
        simp [hkeys]
      refine ⟨some ⟨m, scoring.exact⟩, ?_, ?_⟩
      · rw [run_resolve_of_found hr.answers scoring hkeys hbefore hlookUp]
      · rw [score_best?_of_hasPath hm hpath hkey hexact hscoring, Option.map_some]

/-- Failing look-ups lose no match: a resolution among stored modules finds a module if and only if
it would without the failures, and at the same score. -/
theorem resolve_failingLookups (modules : List ServedModule) (root : String)
    (files : String → Except RegistryError String) (candidates : CandidateSet)
    {scoring : Scoring} (hexact : 0 < scoring.exact)
    (hscoring : scoring.substring ≤ scoring.exact) (fails : String → Bool) (reason : String)
    (past : List Query) :
    let r := (ModuleStore.ofModules modules).registry root files
    let failing := r.failingLookups fails reason
    ∃ found other, (r.run (resolve candidates scoring) past).1 = some found ∧
      (failing.run (resolve candidates scoring) past).1 = some other ∧
      (found = none ↔ other = none) ∧
      ∀ best, found = some best → ∃ another, other = some another ∧ another.score = best.score := by
  intro r failing
  have hr : r.FindsListed modules := by
    have hstore := (ModuleStore.ofModules_indexesListed modules).findsListed root files
    rwa [ModuleStore.modules_ofModules] at hstore
  obtain ⟨found, hrun, hfound⟩ := exists_run_resolve_score hr candidates hexact hscoring past
  obtain ⟨other, hfailing, hother⟩ :=
    exists_run_resolve_score (hr.failingLookups fails reason) candidates hexact hscoring past
  have hscores : other.map (·.score) = found.map (·.score) := hother.trans hfound.symm
  refine ⟨found, other, hrun, hfailing, ?_, ?_⟩
  · rw [← Option.map_eq_none_iff (f := (·.score)), ← hscores, Option.map_eq_none_iff]
  · rintro best rfl
    exact Option.map_eq_some_iff.mp hscores

/-- The look-ups find the module that came later; when they all fail, the scan finds the one that it
took the place of. -/
theorem resolve_failingLookups_of_shadowed :
    let shadowed : ServedModule := ⟨"/src/App.tsx", none, none, none⟩
    let later : ServedModule := ⟨"/src/App.tsx", none, some "/work/src/App.tsx", none⟩
    let scoring : Scoring := {}
    let r := (ModuleStore.ofModules [shadowed, later]).registry "/work" fun _ => .ok ""
    let failing := r.failingLookups (fun _ => true) "unavailable"
    let candidates := CandidateSet.ofForms ["/lib/App.tsx", "/src/App.tsx"]
    0 < scoring.exact ∧ scoring.substring ≤ scoring.exact ∧
      (r.run (resolve candidates scoring) []).1 = some (some ⟨later, 100⟩) ∧
      ∃ another, (failing.run (resolve candidates scoring) []).1 = some (some another) ∧
        another.score = 100 := by
  intro shadowed later scoring r failing candidates
  have hexact : 0 < scoring.exact := by decide
  have hscoring : scoring.substring ≤ scoring.exact := by decide
  have hlater : (r.run (resolve candidates scoring) []).1 = some (some ⟨later, 100⟩) := by
    have hfound (past : List Query) (key : String) :
        r.found? past key = if "/src/App.tsx" = key then some later else none := by
      simp [r, ModuleStore.found?_registry, ModuleStore.ofModules, ModuleStore.insert,
        ModuleStore.getElem?_index, ModuleStore.empty, shadowed, later]
      split_ifs <;> rfl
    have hmissed : r.Misses [] ["/lib/App.tsx"] := ⟨hfound [] _, trivial⟩
    obtain ⟨asked, hlookUp⟩ :=
      run_lookUp_of_found (fun _ => ⟨fun _ => rfl, fun _ => rfl, rfl⟩)
        (hfound ([] ++ Query.lookUps ["/lib/App.tsx"]) "/src/App.tsx")
    have hrun := run_resolve_of_found (fun _ => ⟨fun _ => rfl, fun _ => rfl, rfl⟩) scoring
      (rfl : candidates.keys = ["/lib/App.tsx"] ++ "/src/App.tsx" :: []) hmissed hlookUp
    exact congrArg Prod.fst hrun
  obtain ⟨found, other, hrun, hfailing, -, hscore⟩ :=
    resolve_failingLookups [shadowed, later] "/work" (fun _ => .ok "") candidates hexact hscoring
      (fun _ => true) "unavailable" []
  obtain rfl : some ⟨later, 100⟩ = found := Option.some.inj (hlater.symm.trans hrun)
  obtain ⟨another, rfl, hanother⟩ := hscore _ rfl
  exact ⟨hexact, hscoring, hlater, another, hfailing, hanother⟩

end Resolution

end ErrorOrigin
