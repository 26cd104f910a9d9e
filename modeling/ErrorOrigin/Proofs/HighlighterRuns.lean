import ErrorOrigin.Proofs.HtmlCache

/-!
# Runs of the highlighter cache

The invariant says what the cache remembers of the calls since it was new: a highlighter from the
first creation that succeeded, and the languages whose loading succeeded.  One call keeps it, and so
does a whole run of requests.  What a request promises follows from it.
-/

namespace ErrorOrigin

/-- The first attempt of a factory to succeed with these themes. -/
def HighlighterFactory.IsFirstSuccess {σ : Type} (f : HighlighterFactory σ) (themes : Themes)
    (n : Nat) : Prop :=
  (∃ state, f.create n themes = .ok state) ∧ ∀ k < n, ∃ e, f.create k themes = .error e

namespace HighlighterCache

variable {σ : Type} {c c' : HighlighterCache σ} {h : LiveHighlighter σ} {call : Call}
  {calls past : List Call}

/-! ## What a cache remembers -/

/-- The later call is for what the earlier one has brought about. -/
inductive Call.IsRepeatedBy : Call → Call → Prop
  | create (outcome : Except HighlightError Unit) :
      IsRepeatedBy (.create (.ok ())) (.create outcome)
  | load (language : Language) (outcome : Except HighlightError Unit) :
      IsRepeatedBy (.load language (.ok ())) (.load language outcome)

/-- The invariant: what a cache has is what the calls since it was new have brought about. -/
structure Remembers (c : HighlighterCache σ) (past : List Call) : Prop where
  live_iff : c.live.isSome = true ↔ .create (.ok ()) ∈ past
  loaded_iff : ∀ language, language ∈ c.loaded ↔ .load language (.ok ()) ∈ past
  attempts : c.attempts = past.countP Call.isCreate
  failures : c.live = none → ∀ n < c.attempts, ∃ e, c.factory.create n c.themes = .error e
  number : ∀ h, c.live = some h → c.factory.IsFirstSuccess c.themes h.number
  once : past.Pairwise fun earlier later => ¬earlier.IsRepeatedBy later

theorem remembers_fresh (factory : HighlighterFactory σ) (themes : Themes) :
    Remembers (fresh factory themes) [] := by
  constructor <;> simp [fresh]

theorem Remembers.not_mem_created (hc : Remembers c past) (hlive : c.live = none) :
    .create (.ok ()) ∉ past := by
  rw [← hc.live_iff, hlive]
  simp

theorem Remembers.once_append (hc : Remembers c past) (hcall : Makes c call c') :
    (past ++ [call]).Pairwise fun earlier later => ¬earlier.IsRepeatedBy later := by
  rw [List.pairwise_append]
  refine ⟨hc.once, List.pairwise_singleton _ _, ?_⟩
  intro earlier hearlier later hlater hrepeated
  obtain rfl := List.mem_singleton.mp hlater
  cases hrepeated with
  | create outcome =>
      cases hcall with
      | failed hlive hcreate => exact hc.not_mem_created hlive hearlier
      | created hlive hcreate => exact hc.not_mem_created hlive hearlier
  | load language outcome =>
      cases hcall with
      | rejected hlive hnew hload => exact hnew ((hc.loaded_iff language).mpr hearlier)
      | loaded hlive hnew hload => exact hnew ((hc.loaded_iff language).mpr hearlier)

theorem Remembers.step (hc : Remembers c past) (hcall : Makes c call c') :
    Remembers c' (past ++ [call]) := by
  have honce := hc.once_append hcall
  cases hcall with
  | @failed e hlive hcreate =>
      refine ⟨?_, ?_, ?_, ?_, hc.number, honce⟩
      · simp [hc.live_iff]
      · simp [hc.loaded_iff]
      · simp [hc.attempts, Call.isCreate]
      · intro _ n hn
        rcases Nat.lt_succ_iff_lt_or_eq.mp hn with hlt | rfl
        · exact hc.failures hlive n hlt
        · exact ⟨e, hcreate⟩
  | @created state hlive hcreate =>
      refine ⟨?_, ?_, ?_, ?_, ?_, honce⟩
      · simp
      · simp [hc.loaded_iff]
      · simp [hc.attempts, Call.isCreate]
      · intro hnone
        cases hnone
      · intro h hh
        cases hh
        -- all attempts before this one have failed, or there would be a highlighter
        exact ⟨⟨state, hcreate⟩, hc.failures hlive⟩
  | @rejected h language e state hlive hnew hload =>
      refine ⟨?_, ?_, ?_, ?_, ?_, honce⟩
      · simpa [hlive] using hc.live_iff
      · simp [hc.loaded_iff]
      · simp [hc.attempts, Call.isCreate]
      · intro hnone
        cases hnone
      · intro h' hh
        cases hh
        exact hc.number h hlive
  | @loaded h language state hlive hnew hload =>
      refine ⟨?_, ?_, ?_, ?_, ?_, honce⟩
      · simpa [hlive] using hc.live_iff
      · intro other
        simp [hc.loaded_iff, or_comm]
      · simp [hc.attempts, Call.isCreate]
      · intro hnone
        cases hnone
      · intro h' hh
        cases hh
        exact hc.number h hlive

theorem Remembers.steps (hc : Remembers c past) (hcalls : MakesAll c calls c') :
    Remembers c' (past ++ calls) :=
  hcalls.keeps Remembers.step hc

theorem Remembers.isCreate_eq_false (hc : Remembers c past) (hmade : .create (.ok ()) ∈ past)
    (hcalls : MakesAll c calls c') : ∀ call ∈ calls, call.isCreate = false := by
  intro call hcall
  have honce := (List.pairwise_append.mp (hc.steps hcalls).once).2.2 _ hmade call hcall
  cases call with
  | create outcome => exact absurd (.create outcome) honce
  | load language outcome => rfl

theorem Remembers.creates (hc : Remembers c past) (hnone : .create (.ok ()) ∉ past)
    (languages : List Language) : ∃ outcome loads,
      c.calls languages = .create outcome :: loads ∧ ∀ call ∈ loads, call.isCreate = false := by
  have hlive : c.live = none := by
    rw [← hc.live_iff] at hnone
    simpa using hnone
  cases hcreate : c.factory.create c.attempts c.themes with
  | error e => exact ⟨_, [], (get_of_failed hlive hcreate languages).2, by simp⟩
  | ok state =>
      have hmade := hc.step (.created hlive hcreate)
      refine ⟨_, _, (serves_created hlive hcreate).calls_append languages, ?_⟩
      exact hmade.isCreate_eq_false (by simp) (get_makesAll _ languages)

/-! ## What is promised of a request -/

/-- What a request for these languages does, where the past is the calls since the cache was new. -/
structure Promises (c : HighlighterCache σ) (past : List Call) (languages : List Language) :
    Prop where
  /-- The calls of the request have the outcomes that the factory and the highlighter have for
  them, and lead to the cache that the request leaves. -/
  made : MakesAll c (c.calls languages) (c.get languages).2
  initialized_iff : c.isInitialized = true ↔ .create (.ok ()) ∈ past
  loaded_iff : ∀ language, language ∈ c.loaded ↔ .load language (.ok ()) ∈ past
  /-- Nothing that has succeeded is called for again. -/
  once : (past ++ c.calls languages).Pairwise fun earlier later => ¬earlier.IsRepeatedBy later
  /-- As long as no creation has succeeded, every request tries one, once and before all else. -/
  creates : .create (.ok ()) ∉ past → ∃ outcome loads,
    c.calls languages = .create outcome :: loads ∧ ∀ call ∈ loads, call.isCreate = false
  creates_not : .create (.ok ()) ∈ past → ∀ call ∈ c.calls languages, call.isCreate = false
  /-- Nothing is loaded where no highlighter can be made. -/
  failed : ∀ e, .create (.error e) ∈ c.calls languages →
    c.calls languages = [.create (.error e)] ∧ (c.get languages).1 = .error e ∧
      (c.get languages).2.isInitialized = false ∧ (c.get languages).2.loaded = c.loaded
  requested : ∀ language outcome, .load language outcome ∈ c.calls languages → language ∈ languages
  /-- The highlighter of a request that succeeds is the first that was made. -/
  first : ∀ n, (c.get languages).1 = .ok n → c.factory.IsFirstSuccess c.themes n ∧
    (c.get languages).2.live.map LiveHighlighter.number = some n
  same : ∀ n, (c.get languages).1 = .ok n → ∀ between others n',
    (((c.get languages).2.after between).get others).1 = .ok n' → n' = n
  complete : ∀ n, (c.get languages).1 = .ok n → ∀ language ∈ languages,
    language ∈ (c.get languages).2.loaded ∧ .load language (.ok ()) ∈ past ++ c.calls languages
  /-- A language is called for when it is reached, unless it has been loaded before. -/
  reached : ∀ before language rest n, languages = before ++ language :: rest →
    (c.get before).1 = .ok n → .load language (.ok ()) ∉ past ++ c.calls before →
      ∃ outcome loads, c.calls languages = c.calls before ++ .load language outcome :: loads
  /-- A request is over with the first language that is refused. -/
  rejected : ∀ language e, .load language (.error e) ∈ c.calls languages →
    ∃ before rest, languages = before ++ language :: rest ∧
      c.calls languages = c.calls before ++ [.load language (.error e)] ∧
      (c.get languages).1 = .error e ∧ before ⊆ (c.get languages).2.loaded ∧
      language ∉ (c.get languages).2.loaded ∧
      ∀ other outcome, .load other outcome ∈ c.calls before → other ∈ before
  trouble : ∀ e, (c.get languages).1 = .error e → .create (.error e) ∈ c.calls languages ∨
    ∃ language, .load language (.error e) ∈ c.calls languages

theorem Remembers.promises (hc : Remembers c past) (languages : List Language) :
    c.Promises past languages := by
  have hmade := c.get_makesAll languages
  have hafter := hc.steps hmade
  constructor
  case made => exact hmade
  case initialized_iff => exact hc.live_iff
  case loaded_iff => exact hc.loaded_iff
  case once => exact hafter.once
  case creates => exact fun hnone => hc.creates hnone languages
  case creates_not => exact fun hsome => hc.isCreate_eq_false hsome hmade
  case failed =>
    intro e hcall
    obtain ⟨hcalls, hget, hlive, hloaded⟩ := get_of_create_error hcall
    exact ⟨hcalls, hget, by rw [isInitialized, hlive]; rfl, hloaded⟩
  case requested => exact fun language outcome hcall => requested_of_mem_calls hcall
  case first =>
    intro n hok
    obtain ⟨-, h, hlive, rfl⟩ := serves_of_get_ok hok
    have hfirst := hafter.number h hlive
    rw [hmade.growsTo.factory, hmade.growsTo.themes] at hfirst
    exact ⟨hfirst, by rw [hlive]; rfl⟩
  case same => exact fun n hok between others n' hok' => get_same hok hok'
  case complete =>
    intro n hok language hlanguage
    have hloaded := (serves_of_get_ok hok).1.loaded hlanguage
    exact ⟨hloaded, (hafter.loaded_iff language).mp hloaded⟩
  case reached =>
    rintro before language rest n rfl hok hnew
    rw [← (hc.steps (c.get_makesAll before)).loaded_iff] at hnew
    exact calls_of_reached hok hnew
  case rejected =>
    intro language e hcall
    obtain ⟨before, rest, hsplit, hcalls, hget, hkept, hnew⟩ := get_of_load_error hcall
    exact ⟨before, rest, hsplit, hcalls, hget, hkept, hnew,
      fun other outcome => requested_of_mem_calls⟩
  case trouble => exact fun e herror => mem_calls_of_get_error herror

/-- Every request of a run keeps what is promised, whatever fails in the run.  An HTML highlighter
renders all languages of a request that has succeeded, also after further requests. -/
theorem requests_served :
    (∀ {σ : Type} (factory : HighlighterFactory σ) (themes : Themes)
      (requests : List (List Language)) (languages : List Language),
      ((fresh factory themes).after requests).Promises ((fresh factory themes).history requests)
        languages) ∧
    ∀ factory : HighlighterFactory (List Language),
      factory.toHighlighter = Html.factory.toHighlighter →
      ∀ (themes : Themes) (requests later : List (List Language)) (languages : List Language)
        (n : Nat), (((fresh factory themes).after requests).get languages).1 = .ok n →
        ∃ h, ((((fresh factory themes).after requests).get languages).2.after later).live = some h ∧
          h.number = n ∧ ∀ (code : String) (options : RenderOptions),
            options.language ∈ languages →
              (factory.render code options h.state).1 = .ok (Html.render code options) := by
  constructor
  · intro σ factory themes requests languages
    have hpast := (remembers_fresh factory themes).steps (after_makesAll _ requests)
    rw [List.nil_append] at hpast
    exact hpast.promises languages
  · intro factory hhtml themes requests later languages n hok
    obtain ⟨hserves, h, hlive, hnumber⟩ := serves_of_get_ok hok
    have hlater := after_makesAll (((fresh factory themes).after requests).get languages).2 later
    have hrun := ((after_makesAll _ requests).append hserves.made).append hlater
    have hknows := (knows_fresh hhtml themes).steps hrun
    have hgrows := hlater.growsTo
    obtain ⟨h', hlive', hnumber'⟩ := hgrows.number h hlive
    refine ⟨h', hlive', hnumber'.trans hnumber, ?_⟩
    intro code options hlanguage
    have hrender := hknows.render hlive' code options (hgrows.loaded (hserves.loaded hlanguage))
    rw [hrun.growsTo.factory] at hrender
    exact congrArg Prod.fst hrender

/-- A creation that fails is made again.  A refusal ends its request and is met again; TypeScript is
loaded once. -/
example : (fresh ((Html.factory.refusing [.vue] []).failingFirst 1) {}).history
      [[.typeScript], [.typeScript, .vue, .css], [.vue, .typeScript]] =
    [.create (.error (.create "attempt 0")),
      .create (.ok ()), .load .typeScript (.ok ()),
      .load .vue (.error (.unsupportedLanguage "vue")),
      .load .vue (.error (.unsupportedLanguage "vue"))] := by
  decide

end HighlighterCache

end ErrorOrigin
