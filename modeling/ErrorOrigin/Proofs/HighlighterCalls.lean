import ErrorOrigin.Highlight.Cache
import Mathlib.Tactic

/-!
# Calls of the highlighter cache

A cache is asked for highlighters many times, and its factory and its highlighter may fail at each
of them.  The calls it makes of both are written down here with their outcomes.  A request makes
them one after the other, each where there is need for it, and ends with the first that fails.
-/

namespace ErrorOrigin.HighlighterCache

variable {σ : Type}

def fresh (factory : HighlighterFactory σ) (themes : Themes) : HighlighterCache σ :=
  { factory, themes }

/-- What a cache asks of its factory and of its highlighter, with the outcome. -/
inductive Call where
  | create (outcome : Except HighlightError Unit)
  | load (language : Language) (outcome : Except HighlightError Unit)
deriving DecidableEq

def Call.isCreate : Call → Bool
  | .create _ => true
  | .load _ _ => false

def loadCalls (h : LiveHighlighter σ) (c : HighlighterCache σ) : List Language → List Call
  | [] => []
  | language :: rest =>
    if language ∈ c.loaded then loadCalls h c rest
    else
      let (outcome, state) := c.factory.load language h.state
      let h := { h with state }
      let c := { c with live := some h }
      .load language outcome :: match outcome with
        | .error _ => []
        | .ok () => loadCalls h { c with loaded := language :: c.loaded } rest

def calls (c : HighlighterCache σ) (languages : List Language) : List Call :=
  match c.live with
  | some h => loadCalls h c languages
  | none =>
    match c.factory.create c.attempts c.themes with
    | .error e => [.create (.error e)]
    | .ok state =>
      let h : LiveHighlighter σ := ⟨c.attempts, state⟩
      .create (.ok ()) ::
        loadCalls h { c with attempts := c.attempts + 1, live := some h } languages

def after (c : HighlighterCache σ) (requests : List (List Language)) : HighlighterCache σ :=
  requests.foldl (fun c languages => (c.get languages).2) c

def history (c : HighlighterCache σ) : List (List Language) → List Call
  | [] => []
  | languages :: rest => c.calls languages ++ (c.get languages).2.history rest

/-! ## One call -/

/-- One call, made where there is need for it, with the outcome that the factory or the highlighter
has for it and the cache that comes of it. -/
inductive Makes : HighlighterCache σ → Call → HighlighterCache σ → Prop
  | failed {c : HighlighterCache σ} {e : HighlightError} (hlive : c.live = none)
      (hcreate : c.factory.create c.attempts c.themes = .error e) :
      Makes c (.create (.error e)) { c with attempts := c.attempts + 1 }
  | created {c : HighlighterCache σ} {state : σ} (hlive : c.live = none)
      (hcreate : c.factory.create c.attempts c.themes = .ok state) :
      Makes c (.create (.ok ()))
        { c with attempts := c.attempts + 1, live := some ⟨c.attempts, state⟩ }
  | rejected {c : HighlighterCache σ} {h : LiveHighlighter σ} {language : Language}
      {e : HighlightError} {state : σ} (hlive : c.live = some h) (hnew : language ∉ c.loaded)
      (hload : c.factory.load language h.state = (.error e, state)) :
      Makes c (.load language (.error e)) { c with live := some { h with state } }
  | loaded {c : HighlighterCache σ} {h : LiveHighlighter σ} {language : Language} {state : σ}
      (hlive : c.live = some h) (hnew : language ∉ c.loaded)
      (hload : c.factory.load language h.state = (.ok (), state)) :
      Makes c (.load language (.ok ()))
        { c with live := some { h with state }, loaded := language :: c.loaded }

inductive MakesAll : HighlighterCache σ → List Call → HighlighterCache σ → Prop
  | nil (c : HighlighterCache σ) : MakesAll c [] c
  | cons {c c' c'' : HighlighterCache σ} {call : Call} {calls : List Call}
      (hcall : Makes c call c') (hcalls : MakesAll c' calls c'') : MakesAll c (call :: calls) c''

variable {c c' c'' : HighlighterCache σ} {h : LiveHighlighter σ} {call : Call}
  {calls calls' past : List Call}

theorem MakesAll.append (hcalls : MakesAll c calls c') (hcalls' : MakesAll c' calls' c'') :
    MakesAll c (calls ++ calls') c'' := by
  induction hcalls with
  | nil c => exact hcalls'
  | cons hcall _ ih => exact .cons hcall (ih hcalls')

theorem MakesAll.singleton (hcall : Makes c call c') : MakesAll c [call] c' :=
  .cons hcall (.nil c')

/-- What lasts: the factory, the themes, what is loaded, and the highlighter once it is there. -/
structure GrowsTo (c c' : HighlighterCache σ) : Prop where
  factory : c'.factory = c.factory
  themes : c'.themes = c.themes
  loaded : c.loaded ⊆ c'.loaded
  number : ∀ h, c.live = some h → ∃ h', c'.live = some h' ∧ h'.number = h.number

theorem GrowsTo.refl (c : HighlighterCache σ) : c.GrowsTo c :=
  ⟨rfl, rfl, List.Subset.refl _, fun h hlive => ⟨h, hlive, rfl⟩⟩

theorem GrowsTo.trans (hgrows : c.GrowsTo c') (hgrows' : c'.GrowsTo c'') : c.GrowsTo c'' where
  factory := hgrows'.factory.trans hgrows.factory
  themes := hgrows'.themes.trans hgrows.themes
  loaded := List.Subset.trans hgrows.loaded hgrows'.loaded
  number h hlive := by
    obtain ⟨h', hlive', hsame⟩ := hgrows.number h hlive
    obtain ⟨h'', hlive'', hsame'⟩ := hgrows'.number h' hlive'
    exact ⟨h'', hlive'', hsame'.trans hsame⟩

theorem Makes.growsTo (hcall : Makes c call c') : c.GrowsTo c' := by
  cases hcall with
  | failed hlive hcreate =>
      exact ⟨rfl, rfl, List.Subset.refl _, fun h hsome => ⟨h, hsome, rfl⟩⟩
  | created hlive hcreate => exact ⟨rfl, rfl, List.Subset.refl _, by simp [hlive]⟩
  | rejected hlive hnew hload => exact ⟨rfl, rfl, List.Subset.refl _, by simp [hlive]⟩
  | loaded hlive hnew hload => exact ⟨rfl, rfl, List.subset_cons_self _ _, by simp [hlive]⟩

theorem MakesAll.growsTo (hcalls : MakesAll c calls c') : c.GrowsTo c' := by
  induction hcalls with
  | nil c => exact .refl c
  | cons hcall _ ih => exact hcall.growsTo.trans ih

/-- What every call keeps, with the calls made so far, a run of calls keeps. -/
theorem MakesAll.keeps {P : HighlighterCache σ → List Call → Prop}
    (hstep : ∀ {c past call c'}, P c past → Makes c call c' → P c' (past ++ [call]))
    (hcalls : MakesAll c calls c') (hc : P c past) : P c' (past ++ calls) := by
  induction hcalls generalizing past with
  | nil c => simpa using hc
  | cons hcall _ ih =>
      have hrest := ih (hstep hc hcall)
      rwa [List.append_assoc] at hrest

/-! ## The calls of a request

A request makes a highlighter if there is none, and then goes through its languages.  Each of the
two is taken apart once, for the outcome and for the calls together. -/

theorem calls_of_live (hlive : c.live = some h) (languages : List Language) :
    c.calls languages = loadCalls h c languages := by
  rw [HighlighterCache.calls, hlive]

theorem get_of_live (hlive : c.live = some h) (languages : List Language) :
    c.get languages = loadAll h c languages := by
  rw [get, ensure, hlive]

theorem get_of_failed {e : HighlightError} (hlive : c.live = none)
    (hcreate : c.factory.create c.attempts c.themes = .error e) (languages : List Language) :
    c.get languages = (.error e, { c with attempts := c.attempts + 1 }) ∧
      c.calls languages = [.create (.error e)] := by
  simp [get, ensure, HighlighterCache.calls, hlive, hcreate]

/-- A request for these languages makes these calls, all of them successful, and goes on as a
request of the cache that comes of them. -/
structure Serves (c : HighlighterCache σ) (languages : List Language) (calls : List Call)
    (c' : HighlighterCache σ) : Prop where
  made : MakesAll c calls c'
  live : ∃ h, c'.live = some h
  loaded : languages ⊆ c'.loaded
  successful : ∀ call ∈ calls, call = .create (.ok ()) ∨
    ∃ language ∈ languages, call = .load language (.ok ())
  get_append : ∀ rest, c.get (languages ++ rest) = c'.get rest
  calls_append : ∀ rest, c.calls (languages ++ rest) = calls ++ c'.calls rest

theorem serves_nil (hlive : c.live = some h) : c.Serves [] [] c :=
  ⟨.nil c, ⟨h, hlive⟩, List.nil_subset _, by simp, fun _ => rfl, fun _ => rfl⟩

theorem serves_created {state : σ} (hlive : c.live = none)
    (hcreate : c.factory.create c.attempts c.themes = .ok state) :
    c.Serves [] [.create (.ok ())]
      { c with attempts := c.attempts + 1, live := some ⟨c.attempts, state⟩ } where
  made := .singleton (.created hlive hcreate)
  live := ⟨_, rfl⟩
  loaded := List.nil_subset _
  successful := by simp
  get_append rest := by simp [get, ensure, hlive, hcreate]
  calls_append rest := by simp [HighlighterCache.calls, hlive, hcreate]

theorem serves_loaded {language : Language} (hlive : c.live = some h)
    (hloaded : language ∈ c.loaded) : c.Serves [language] [] c where
  made := .nil c
  live := ⟨h, hlive⟩
  loaded := by simpa using hloaded
  successful := by simp
  get_append rest := by
    rw [get_of_live hlive, get_of_live hlive, List.singleton_append, loadAll, if_pos hloaded]
  calls_append rest := by
    rw [calls_of_live hlive, calls_of_live hlive, List.singleton_append, loadCalls,
      if_pos hloaded, List.nil_append]

theorem serves_load {language : Language} {state : σ} (hlive : c.live = some h)
    (hnew : language ∉ c.loaded) (hload : c.factory.load language h.state = (.ok (), state)) :
    c.Serves [language] [.load language (.ok ())]
      { c with live := some { h with state }, loaded := language :: c.loaded } where
  made := .singleton (.loaded hlive hnew hload)
  live := ⟨_, rfl⟩
  loaded := by simp
  successful := by simp
  get_append rest := by
    rw [get_of_live hlive, List.singleton_append, loadAll, if_neg hnew, hload]
    exact (get_of_live rfl rest).symm
  calls_append rest := by
    rw [calls_of_live hlive, List.singleton_append, loadCalls, if_neg hnew, hload]
    exact congrArg _ (calls_of_live rfl rest).symm

theorem Serves.append {before after : List Language} (hbefore : c.Serves before calls c')
    (hafter : c'.Serves after calls' c'') :
    c.Serves (before ++ after) (calls ++ calls') c'' where
  made := hbefore.made.append hafter.made
  live := hafter.live
  loaded := by
    have hkept : c'.loaded ⊆ c''.loaded := hafter.made.growsTo.loaded
    exact List.append_subset.mpr ⟨List.Subset.trans hbefore.loaded hkept, hafter.loaded⟩
  successful := by
    intro call hcall
    rcases List.mem_append.mp hcall with hcall | hcall
    · rcases hbefore.successful call hcall with hcreate | ⟨language, hlanguage, hload⟩
      · exact .inl hcreate
      · exact .inr ⟨language, List.mem_append_left after hlanguage, hload⟩
    · rcases hafter.successful call hcall with hcreate | ⟨language, hlanguage, hload⟩
      · exact .inl hcreate
      · exact .inr ⟨language, List.mem_append_right before hlanguage, hload⟩
  get_append rest := by rw [List.append_assoc, hbefore.get_append, hafter.get_append]
  calls_append rest := by
    rw [List.append_assoc, hbefore.calls_append, hafter.calls_append, List.append_assoc]

theorem Serves.calls_eq {languages : List Language} (hserves : c.Serves languages calls c') :
    c.calls languages = calls := by
  obtain ⟨h, hlive⟩ := hserves.live
  have happend := hserves.calls_append []
  rwa [List.append_nil, calls_of_live hlive, loadCalls, List.append_nil] at happend

theorem Serves.get_eq {languages : List Language} (hserves : c.Serves languages calls c') :
    ∃ h, c'.live = some h ∧ c.get languages = (.ok h.number, c') := by
  obtain ⟨h, hlive⟩ := hserves.live
  have happend := hserves.get_append []
  rw [List.append_nil, get_of_live hlive, loadAll] at happend
  exact ⟨h, hlive, happend⟩

/-- The highlighter refuses the language, and that ends the request. -/
def Stops (c : HighlighterCache σ) (language : Language) (e : HighlightError)
    (c' : HighlighterCache σ) : Prop :=
  Makes c (.load language (.error e)) c' ∧ ∀ rest,
    c.get (language :: rest) = (.error e, c') ∧
      c.calls (language :: rest) = [.load language (.error e)]

theorem stops_of_rejected {language : Language} {e : HighlightError} {state : σ}
    (hlive : c.live = some h) (hnew : language ∉ c.loaded)
    (hload : c.factory.load language h.state = (.error e, state)) :
    c.Stops language e { c with live := some { h with state } } := by
  refine ⟨.rejected hlive hnew hload, fun rest => ⟨?_, ?_⟩⟩
  · rw [get_of_live hlive, loadAll, if_neg hnew, hload]
  · rw [calls_of_live hlive, loadCalls, if_neg hnew, hload]

theorem serves_or_stops (hlive : c.live = some h) (language : Language) :
    (∃ calls c', c.Serves [language] calls c') ∨ ∃ e c', c.Stops language e c' := by
  by_cases hloaded : language ∈ c.loaded
  · exact .inl ⟨_, _, serves_loaded hlive hloaded⟩
  · rcases hload : c.factory.load language h.state with ⟨_ | _, state⟩
    · exact .inr ⟨_, _, stops_of_rejected hlive hloaded hload⟩
    · exact .inl ⟨_, _, serves_load hlive hloaded hload⟩

inductive Ends (c : HighlighterCache σ) (languages : List Language) : Prop
  /-- There is no highlighter, and none can be made. -/
  | failed (e : HighlightError) (hlive : c.live = none)
      (hcreate : c.factory.create c.attempts c.themes = .error e)
  /-- All languages are loaded. -/
  | served (calls : List Call) (c' : HighlighterCache σ) (hserves : c.Serves languages calls c')
  /-- The languages up to one that is refused are loaded. -/
  | stopped (before : List Language) (language : Language) (rest : List Language)
      (calls : List Call) (c' : HighlighterCache σ) (e : HighlightError)
      (c'' : HighlighterCache σ) (hsplit : languages = before ++ language :: rest)
      (hserves : c.Serves before calls c') (hstops : c'.Stops language e c'')

theorem Serves.ends {before languages : List Language} (hserves : c.Serves before calls c')
    (hends : c'.Ends languages) : c.Ends (before ++ languages) := by
  cases hends with
  | failed e hlive hcreate =>
      -- no creation is left to fail where languages have been served
      obtain ⟨h, hsome⟩ := hserves.live
      rw [hlive] at hsome
      cases hsome
  | served calls' c'' hserves' => exact .served _ _ (hserves.append hserves')
  | stopped between language rest calls' d e c'' hsplit hserves' hstops =>
      refine .stopped (before ++ between) language rest _ d e c'' ?_ (hserves.append hserves')
        hstops
      rw [hsplit, List.append_assoc]

theorem ends_of_live (hlive : c.live = some h) (languages : List Language) : c.Ends languages := by
  induction languages generalizing c h with
  | nil => exact .served _ _ (serves_nil hlive)
  | cons language rest ih =>
      rcases serves_or_stops hlive language with ⟨calls, c', hserves⟩ | ⟨e, c', hstops⟩
      · obtain ⟨h', hlive'⟩ := hserves.live
        exact hserves.ends (ih hlive')
      · exact .stopped [] language rest [] c e c' rfl (serves_nil hlive) hstops

theorem ends (c : HighlighterCache σ) (languages : List Language) : c.Ends languages := by
  cases hlive : c.live with
  | some h => exact ends_of_live hlive languages
  | none =>
      cases hcreate : c.factory.create c.attempts c.themes with
      | error e => exact .failed e hlive hcreate
      | ok state => exact (serves_created hlive hcreate).ends (ends_of_live rfl languages)

theorem Stops.get_append {before : List Language} {language : Language} {e : HighlightError}
    (hstops : c'.Stops language e c'') (hserves : c.Serves before calls c')
    (rest : List Language) :
    c.get (before ++ language :: rest) = (.error e, c'') ∧
      c.calls (before ++ language :: rest) = calls ++ [.load language (.error e)] := by
  rw [hserves.get_append, hserves.calls_append, (hstops.2 rest).1, (hstops.2 rest).2]
  exact ⟨rfl, rfl⟩

theorem get_makesAll (c : HighlighterCache σ) (languages : List Language) :
    MakesAll c (c.calls languages) (c.get languages).2 := by
  cases c.ends languages with
  | failed e hlive hcreate =>
      rw [(get_of_failed hlive hcreate languages).1, (get_of_failed hlive hcreate languages).2]
      exact .singleton (.failed hlive hcreate)
  | served calls c' hserves =>
      obtain ⟨h, -, hget⟩ := hserves.get_eq
      rw [hserves.calls_eq, hget]
      exact hserves.made
  | stopped before language rest calls c' e c'' hsplit hserves hstops =>
      obtain ⟨hget, hcalls⟩ := hstops.get_append hserves rest
      rw [hsplit, hget, hcalls]
      exact hserves.made.append (.singleton hstops.1)

theorem after_makesAll (c : HighlighterCache σ) (requests : List (List Language)) :
    MakesAll c (c.history requests) (c.after requests) := by
  induction requests generalizing c with
  | nil => exact .nil c
  | cons languages rest ih => exact (c.get_makesAll languages).append (ih _)

theorem serves_of_get_ok {languages : List Language} {n : Nat}
    (hok : (c.get languages).1 = .ok n) :
    c.Serves languages (c.calls languages) (c.get languages).2 ∧
      ∃ h, (c.get languages).2.live = some h ∧ h.number = n := by
  cases c.ends languages with
  | failed e hlive hcreate =>
      rw [(get_of_failed hlive hcreate languages).1] at hok
      cases hok
  | served calls c' hserves =>
      obtain ⟨h, hlive, hget⟩ := hserves.get_eq
      rw [hget] at hok ⊢
      rw [hserves.calls_eq]
      exact ⟨hserves, h, hlive, by simpa using hok⟩
  | stopped before language rest calls c' e c'' hsplit hserves hstops =>
      rw [hsplit, (hstops.get_append hserves _).1] at hok
      cases hok

theorem Serves.not_mem_create_error {languages : List Language}
    (hserves : c.Serves languages calls c') (e : HighlightError) : .create (.error e) ∉ calls := by
  intro hcall
  rcases hserves.successful _ hcall with hsuccess | ⟨_, _, hsuccess⟩ <;> cases hsuccess

theorem Serves.not_mem_load_error {languages : List Language}
    (hserves : c.Serves languages calls c') (language : Language) (e : HighlightError) :
    .load language (.error e) ∉ calls := by
  intro hcall
  rcases hserves.successful _ hcall with hsuccess | ⟨_, _, hsuccess⟩ <;> cases hsuccess

theorem Serves.requested {languages : List Language} {language : Language}
    {outcome : Except HighlightError Unit} (hserves : c.Serves languages calls c')
    (hcall : .load language outcome ∈ calls) : language ∈ languages := by
  rcases hserves.successful _ hcall with hsuccess | ⟨other, hother, hsuccess⟩
  · cases hsuccess
  · cases hsuccess
    exact hother

theorem requested_of_mem_calls {languages : List Language} {language : Language}
    {outcome : Except HighlightError Unit} (hcall : .load language outcome ∈ c.calls languages) :
    language ∈ languages := by
  cases c.ends languages with
  | failed e hlive hcreate =>
      rw [(get_of_failed hlive hcreate languages).2] at hcall
      simp at hcall
  | served calls c' hserves =>
      rw [hserves.calls_eq] at hcall
      exact hserves.requested hcall
  | stopped before refused rest calls c' e c'' hsplit hserves hstops =>
      rw [hsplit, (hstops.get_append hserves _).2] at hcall
      rw [hsplit]
      rcases List.mem_append.mp hcall with hcall | hcall
      · exact List.mem_append_left _ (hserves.requested hcall)
      · obtain ⟨rfl, -⟩ := Call.load.inj (List.mem_singleton.mp hcall)
        simp

/-- A creation that fails is all there is to its request. -/
theorem get_of_create_error {languages : List Language} {e : HighlightError}
    (hcall : .create (.error e) ∈ c.calls languages) :
    c.calls languages = [.create (.error e)] ∧ (c.get languages).1 = .error e ∧
      (c.get languages).2.live = none ∧ (c.get languages).2.loaded = c.loaded := by
  cases c.ends languages with
  | failed e' hlive hcreate =>
      obtain ⟨hget, hcalls⟩ := get_of_failed hlive hcreate languages
      rw [hcalls] at hcall
      obtain rfl : e = e' := by simpa using hcall
      rw [hget, hcalls]
      exact ⟨rfl, rfl, hlive, rfl⟩
  | served calls c' hserves =>
      rw [hserves.calls_eq] at hcall
      exact absurd hcall (hserves.not_mem_create_error e)
  | stopped before language rest calls c' e' c'' hsplit hserves hstops =>
      rw [hsplit, (hstops.get_append hserves _).2] at hcall
      rcases List.mem_append.mp hcall with hcall | hcall
      · exact absurd hcall (hserves.not_mem_create_error e)
      · simp at hcall

/-- A language that is refused ends its request, with what came before it loaded. -/
theorem get_of_load_error {languages : List Language} {language : Language} {e : HighlightError}
    (hcall : .load language (.error e) ∈ c.calls languages) :
    ∃ before rest, languages = before ++ language :: rest ∧
      c.calls languages = c.calls before ++ [.load language (.error e)] ∧
      (c.get languages).1 = .error e ∧ before ⊆ (c.get languages).2.loaded ∧
      language ∉ (c.get languages).2.loaded := by
  cases c.ends languages with
  | failed e' hlive hcreate =>
      rw [(get_of_failed hlive hcreate languages).2] at hcall
      simp at hcall
  | served calls c' hserves =>
      rw [hserves.calls_eq] at hcall
      exact absurd hcall (hserves.not_mem_load_error language e)
  | stopped before refused rest calls c' e' c'' hsplit hserves hstops =>
      obtain ⟨hget, hcalls⟩ := hstops.get_append hserves rest
      rw [hsplit, hcalls] at hcall
      rcases List.mem_append.mp hcall with hcall | hcall
      · exact absurd hcall (hserves.not_mem_load_error language e)
      · obtain ⟨rfl, hsame⟩ := Call.load.inj (List.mem_singleton.mp hcall)
        obtain rfl : e = e' := by simpa using hsame
        refine ⟨before, rest, hsplit, ?_, ?_, ?_, ?_⟩
        · rw [hsplit, hcalls, hserves.calls_eq]
        · rw [hsplit, hget]
        · rw [hsplit, hget]
          exact List.Subset.trans hserves.loaded hstops.1.growsTo.loaded
        · rw [hsplit, hget]
          cases hstops.1 with
          | rejected hlive hnew hload => exact hnew

theorem mem_calls_of_get_error {languages : List Language} {e : HighlightError}
    (herror : (c.get languages).1 = .error e) : .create (.error e) ∈ c.calls languages ∨
      ∃ language, .load language (.error e) ∈ c.calls languages := by
  cases c.ends languages with
  | failed e' hlive hcreate =>
      obtain ⟨hget, hcalls⟩ := get_of_failed hlive hcreate languages
      rw [hget] at herror
      cases herror
      exact .inl (by simp [hcalls])
  | served calls c' hserves =>
      obtain ⟨h, -, hget⟩ := hserves.get_eq
      rw [hget] at herror
      cases herror
  | stopped before language rest calls c' e' c'' hsplit hserves hstops =>
      obtain ⟨hget, hcalls⟩ := hstops.get_append hserves rest
      rw [hsplit, hget] at herror
      cases herror
      exact .inr ⟨language, by simp [hsplit, hcalls]⟩

theorem calls_of_reached {before rest : List Language} {language : Language} {n : Nat}
    (hok : (c.get before).1 = .ok n) (hnew : language ∉ (c.get before).2.loaded) :
    ∃ outcome loads, c.calls (before ++ language :: rest) =
      c.calls before ++ .load language outcome :: loads := by
  obtain ⟨hserves, h, hlive, -⟩ := serves_of_get_ok hok
  rw [hserves.calls_append, calls_of_live hlive, loadCalls, if_neg hnew]
  exact ⟨_, _, rfl⟩

theorem get_same {languages others : List Language} {between : List (List Language)} {n n' : Nat}
    (hok : (c.get languages).1 = .ok n)
    (hok' : (((c.get languages).2.after between).get others).1 = .ok n') : n' = n := by
  obtain ⟨-, h, hlive, rfl⟩ := serves_of_get_ok hok
  obtain ⟨h', hlive', hnumber'⟩ := (after_makesAll _ between).growsTo.number h hlive
  obtain ⟨h'', hlive'', hnumber''⟩ := (get_makesAll _ others).growsTo.number h' hlive'
  obtain ⟨-, made, hmade, rfl⟩ := serves_of_get_ok hok'
  obtain rfl : h'' = made := Option.some.inj (hlive''.symm.trans hmade)
  exact hnumber''.trans hnumber'

end ErrorOrigin.HighlighterCache
