import ErrorOrigin.Proofs.InquiryAnswers
import ErrorOrigin.Resolution
import ErrorOrigin.SourceTexts
import ErrorOrigin.Text.Cut
import Mathlib.Tactic

/-!
# Registries with one module

Where there is one module, every look-up finds that module or none.  An identifier with the address
of the module among its candidates finds it, and the authored text that is retrieved for any path
is the content that the map of the module has first.
-/

namespace ErrorOrigin

open Text

namespace CandidateSet

theorem mem_foldl_push {key : String} (forms : List String) (s : CandidateSet) :
    key ∈ forms.foldl push s ↔ key ∈ s ∨ key ∈ forms ∧ key ≠ "" := by
  induction forms generalizing s with
  | nil => simp
  | cons form rest ih =>
      rw [List.foldl_cons, ih, mem_push, List.mem_cons]
      constructor
      · rintro ((hs | ⟨rfl, hne⟩) | ⟨hrest, hne⟩)
        · exact .inl hs
        · exact .inr ⟨.inl rfl, hne⟩
        · exact .inr ⟨.inr hrest, hne⟩
      · rintro (hs | ⟨rfl | hrest, hne⟩)
        · exact .inl (.inl hs)
        · exact .inl (.inr ⟨rfl, hne⟩)
        · exact .inr ⟨hrest, hne⟩

theorem mem_ofForms {key : String} {forms : List String} :
    key ∈ ofForms forms ↔ key ∈ forms ∧ key ≠ "" := by
  have hempty : key ∉ empty := List.not_mem_nil
  rw [ofForms, mem_foldl_push]
  simp [hempty]

theorem claimsWeb_append_query {path : String} (hpath : Address.claimsWeb path = false)
    (query : String) : Address.claimsWeb (path ++ "?" ++ query) = false := by
  simp only [Address.claimsWeb, List.any_eq_false, decide_eq_true_eq] at hpath ⊢
  intro start hstart htake
  have hmark : '?' ∉ start.toList := by
    rcases List.mem_cons.mp hstart with rfl | hstart
    · decide
    · rw [List.mem_singleton.mp hstart]
      decide
  have htext : (path ++ "?" ++ query).toList = path.toList ++ '?' :: query.toList := by simp
  rw [htext] at htake
  by_cases hlength : start.length ≤ path.toList.length
  · rw [List.take_append_of_le_length hlength] at htake
    exact hpath start hstart htake
  · obtain ⟨k, hk⟩ : ∃ k, start.length = path.toList.length + (k + 1) :=
      ⟨start.length - path.toList.length - 1, by omega⟩
    rw [hk, List.take_length_add_append, List.take_succ_cons] at htake
    apply hmark
    rw [← htake, List.mem_map]
    exact ⟨'?', by simp, by decide⟩

/-- A path is among its own candidates, also when a query is put to it. -/
theorem mem_ofIdentifier [DomainForms] {path : String} (hpath : Address.claimsWeb path = false)
    (hne : path ≠ "") (mount : String) : path ∈ ofIdentifier path mount := by
  rw [ofIdentifier, if_neg (by simp [hpath]), mem_ofForms]
  exact ⟨by simp [plainForms], hne⟩

theorem mem_ofIdentifier_query [DomainForms] {path : String}
    (hpath : Address.claimsWeb path = false)
    (hne : path ≠ "") (hmark : '?' ∉ path.toList) (query mount : String) :
    path ∈ ofIdentifier (path ++ "?" ++ query) mount := by
  have hweb := claimsWeb_append_query hpath query
  have hbefore : String.ofList (upTo '?' (path ++ "?" ++ query).toList) = path := by
    have htext : (path ++ "?" ++ query).toList = path.toList ++ '?' :: query.toList := by simp
    have hpart : ∀ c ∈ path.toList, decide (c ≠ '?') = true := by
      intro c hc
      rw [decide_eq_true_eq]
      rintro rfl
      exact hmark hc
    rw [htext, upTo, List.takeWhile_append_of_pos hpart, List.takeWhile_cons_of_neg (by simp),
      List.append_nil, String.ofList_toList]
  rw [ofIdentifier, if_neg (by simp [hweb]), mem_ofForms]
  refine ⟨?_, hne⟩
  rw [plainForms, hbefore]
  simp

end CandidateSet

/-! ## One module -/

theorem Resolution.value_lookUp_eq (answer : (q : Query) → q.Answer) (key : String) :
    (lookUp key).value answer =
      (answer (.byId key)).toOption.join.or (answer (.byUrl key)).toOption.join := by
  have hurl : (lookUpUrl key).value answer = (answer (.byUrl key)).toOption.join := by
    rw [lookUpUrl, Inquiry.value_bind, Inquiry.value_query]
    cases answer (.byUrl key) <;> rfl
  rw [lookUp, Inquiry.value_bind, Inquiry.value_query]
  cases answer (.byId key) with
  | error reason => exact hurl
  | ok found =>
      cases found with
      | none => exact hurl
      | some m => rfl

/-- The answers of a registry that holds one module, knows its transform at most, and reads no
file. -/
structure HoldsOnly (answer : (q : Query) → q.Answer) (m : ServedModule) : Prop where
  byId : ∀ key found, (answer (.byId key)).toOption.join = some found → found = m
  byUrl : ∀ key found, (answer (.byUrl key)).toOption.join = some found → found = m
  atUrl : (answer (.byUrl m.url)).toOption.join = some m
  modules : answer .modules = [m]
  transform : ∀ key t, (answer (.transform key)).toOption.join = some t → m.transform = some t
  read : ∀ path, (answer (.read path)).toOption = none

theorem holdsOnly_ofModules (m : ServedModule) : HoldsOnly (ServedModule.answer [m]) m := by
  have hfind (p : ServedModule → Bool) {found : ServedModule}
      (hfound : [m].find? p = some found) : found = m :=
    List.mem_singleton.mp (List.mem_of_find?_eq_some hfound)
  constructor
  · intro key found hfound
    exact hfind (fun m => decide (m.id = some key)) hfound
  · intro key found hfound
    exact hfind (fun m => decide (m.url = key)) hfound
  · simp [ServedModule.answer, Except.toOption]
  · rfl
  · intro key t ht
    obtain ⟨found, hfound, htransform⟩ : ∃ found,
        [m].find? (fun m => decide (m.transformKey? = some key)) = some found ∧
          found.transform = some t :=
      Option.bind_eq_some_iff.mp ht
    rwa [hfind _ hfound] at htransform
  · intro path
    rfl

namespace HoldsOnly

variable {answer : (q : Query) → q.Answer} {m : ServedModule}

/-! ## Resolution -/

theorem value_lookUp (hm : HoldsOnly answer m) {key : String} {found : ServedModule}
    (hfound : (Resolution.lookUp key).value answer = some found) : found = m := by
  rw [Resolution.value_lookUp_eq, Option.or_eq_some_iff] at hfound
  rcases hfound with hid | ⟨-, hurl⟩
  · exact hm.byId key _ hid
  · exact hm.byUrl key _ hurl

theorem value_lookUp_url (hm : HoldsOnly answer m) :
    (Resolution.lookUp m.url).value answer = some m := by
  rw [Resolution.value_lookUp_eq, hm.atUrl]
  cases hid : (answer (.byId m.url)).toOption.join with
  | none => rfl
  | some other => rw [hm.byId m.url _ hid, Option.some_or]

theorem value_firstHit (hm : HoldsOnly answer m) {keys : List String} {found : ServedModule}
    (hfound : (Resolution.firstHit keys).value answer = some found) : found = m := by
  induction keys with
  | nil => cases hfound
  | cons key rest ih =>
      rw [Resolution.firstHit, Inquiry.value_bind] at hfound
      split at hfound
      · rename_i other hother
        cases hfound
        exact hm.value_lookUp hother
      · exact ih hfound

theorem value_firstHit_of_mem (hm : HoldsOnly answer m) {keys : List String}
    (hkey : m.url ∈ keys) : (Resolution.firstHit keys).value answer = some m := by
  induction keys with
  | nil => cases hkey
  | cons key rest ih =>
      rw [Resolution.firstHit, Inquiry.value_bind]
      split
      · rename_i other hother
        rw [hm.value_lookUp hother]
        rfl
      · rename_i hnone
        rcases List.mem_cons.mp hkey with rfl | hrest
        · rw [hm.value_lookUp_url] at hnone
          cases hnone
        · exact ih hrest

theorem value_resolve (hm : HoldsOnly answer m) {candidates : CandidateSet} {scoring : Scoring}
    {found : Resolution}
    (hfound : (Resolution.resolve candidates scoring).value answer = some found) :
    found.module = m := by
  rw [Resolution.resolve] at hfound
  split at hfound
  · cases hfound
  · rw [Inquiry.value_bind] at hfound
    split at hfound
    · rename_i other hother
      cases hfound
      exact hm.value_firstHit hother
    · have hbest : Resolution.best? scoring candidates.keys [m] = some found := by
        rw [← hm.modules]
        exact hfound
      rw [Resolution.best?, List.foldl_cons, List.foldl_nil, Resolution.better] at hbest
      split at hbest
      · cases hbest
        rfl
      · cases hbest

theorem value_resolve_of_mem (hm : HoldsOnly answer m) {candidates : CandidateSet}
    (hkey : m.url ∈ candidates) (scoring : Scoring) :
    (Resolution.resolve candidates scoring).value answer = some ⟨m, scoring.exact⟩ := by
  have hne : candidates.keys ≠ [] := List.ne_nil_of_mem hkey
  rw [Resolution.resolve, if_neg hne, Inquiry.value_bind, hm.value_firstHit_of_mem hkey]
  rfl

theorem value_firstReadable (hm : HoldsOnly answer m) (files : List String) :
    (SourceTexts.firstReadable files).value answer = none := by
  induction files with
  | nil => rfl
  | cons file rest ih =>
      have hread := hm.read file
      rw [SourceTexts.firstReadable, Inquiry.value_bind, Inquiry.value_query]
      cases hanswer : answer (.read file) with
      | error reason => exact ih
      | ok text =>
          rw [hanswer] at hread
          cases hread

/-- The authored text is not known, or it is the content that the map of the module has first. -/
def QuotesFirst (m : ServedModule) (t : SourceTexts) : Prop :=
  ∀ text, t.authored = some text → m.cachedMap?.bind SourceMap.firstContent? = some text

theorem quotesFirst_cached {found : Option ServedModule}
    (hfound : ∀ other, found = some other → other = m) :
    QuotesFirst m (SourceTexts.cached found) := by
  intro text htext
  cases found with
  | none => cases htext
  | some other =>
      obtain rfl := hfound other rfl
      exact htext

theorem quotesFirst_afterTransform (hm : HoldsOnly answer m) {t : SourceTexts}
    (ht : QuotesFirst m t) (key : Option String) :
    QuotesFirst m ((t.afterTransform key).value answer) := by
  cases key with
  | none => exact ht
  | some key =>
      have htransform := hm.transform key
      rw [SourceTexts.afterTransform, Inquiry.value_bind, Inquiry.value_query]
      cases hanswer : answer (.transform key) with
      | error reason => exact ht
      | ok found =>
          cases found with
          | none => exact ht
          | some fresh =>
              rw [hanswer] at htransform
              have hfresh : m.transform = some fresh := htransform fresh rfl
              intro text htext
              rcases Option.or_eq_some_iff.mp htext with htext | ⟨-, htext⟩
              · exact ht text htext
              · rwa [ServedModule.cachedMap?, hfresh]

theorem quotesFirst_afterDisk (hm : HoldsOnly answer m) {t : SourceTexts}
    (ht : QuotesFirst m t) (files : List String) :
    QuotesFirst m ((t.afterDisk files).value answer) := by
  rw [SourceTexts.afterDisk]
  split
  · exact ht
  · rw [Inquiry.value_bind, hm.value_firstReadable]
    intro text htext
    cases htext

theorem quotesFirst_retrieve [DomainForms] (hm : HoldsOnly answer m) (root : String)
    {found : Option ServedModule} (hfound : ∀ other, found = some other → other = m)
    (path : String) (candidates : CandidateSet) :
    QuotesFirst m ((SourceTexts.retrieve root found path candidates).value answer) := by
  have hcached := quotesFirst_cached hfound
  rw [SourceTexts.retrieve]
  split
  · exact hcached
  · rw [Inquiry.value_bind]
    exact hm.quotesFirst_afterDisk (hm.quotesFirst_afterTransform hcached _) _

/-- With the module at hand its first content is found, if it has one. -/
theorem authored_retrieve_self [DomainForms] (hm : HoldsOnly answer m) (root path : String)
    (candidates : CandidateSet) :
    ((SourceTexts.retrieve root (some m) path candidates).value answer).authored =
      m.cachedMap?.bind SourceMap.firstContent? := by
  have hself : ∀ other, some m = some other → other = m :=
    fun _ hother => (Option.some.inj hother).symm
  have hquotes := hm.quotesFirst_retrieve root hself path candidates
  cases hfirst : m.cachedMap?.bind SourceMap.firstContent? with
  | none =>
      rw [Option.eq_none_iff_forall_ne_some]
      intro text htext
      rw [hquotes text htext] at hfirst
      cases hfirst
  | some text =>
      obtain ⟨map, hmap, -⟩ := Option.bind_eq_some_iff.mp hfirst
      obtain ⟨transform, htransform, -⟩ := Option.bind_eq_some_iff.mp hmap
      have hcomplete : (SourceTexts.cached (some m)).isComplete = true := by
        simp [SourceTexts.isComplete, SourceTexts.cached, hfirst, ServedModule.cachedCode?,
          htransform]
      rw [SourceTexts.retrieve, if_pos hcomplete]
      exact hfirst

end HoldsOnly

end ErrorOrigin
