import ErrorOrigin.Address.Label
import ErrorOrigin.Location
import ErrorOrigin.Proofs.InquiryAnswers
import ErrorOrigin.Registry.Memory
import ErrorOrigin.SourceTexts
import Mathlib.Tactic

/-!
# Kept transforms and fresh ones

A server keeps the transform of a module, or makes it on request.  Positions are located and texts
are retrieved by another way in each case: what is kept is read off the module, and only what it
lacks is requested.  Both ways meet in the same map and the same texts, as long as a request for a
kept transform yields no other one.
-/

namespace ErrorOrigin

/-- The registry that answers like this when the transform of a module is requested. -/
def Registry.transforming (r : Registry) (m : ServedModule)
    (answer : List Query → Except RegistryError (Option Transform)) : Registry where
  root := r.root
  answer past
    | .transform key =>
      if m.transformKey? = some key then some (answer past) else r.answer past (.transform key)
    | q => r.answer past q

section

variable {r : Registry} {m : ServedModule} {key : String}
  {answer : List Query → Except RegistryError (Option Transform)}

theorem Registry.transforming_answer_transform (hkey : m.transformKey? = some key)
    (past : List Query) :
    (r.transforming m answer).answer past (.transform key) = some (answer past) :=
  if_pos hkey

theorem Registry.transforming_answer_read (file : String) (past : List Query) :
    (r.transforming m answer).answer past (.read file) = r.answer past (.read file) :=
  rfl

end

/-- A request that fails yields no map, like one that is made in vain. -/
theorem ServedModule.run_map?_of_answer {r : Registry} {m : ServedModule} {key : String}
    {past : List Query} {answer : Except RegistryError (Option Transform)}
    (hcached : m.cachedMap? = none) (hkey : m.transformKey? = some key)
    (hanswer : r.answer past (.transform key) = some answer) :
    r.run m.map? past =
      (some (answer.toOption.join.bind (·.map)), past ++ [.transform key]) := by
  rw [map?, hcached]
  simp only [hkey]
  rw [Registry.run_bind_of_run (Registry.run_query_of_answer hanswer)]
  cases answer <;> rfl

theorem SourceTexts.run_afterTransform_of_answer {r : Registry} {key : String}
    {past : List Query} {answer : Except RegistryError (Option Transform)} (texts : SourceTexts)
    (hanswer : r.answer past (.transform key) = some answer) :
    r.run (texts.afterTransform (some key)) past =
      (some (answer.toOption.join.elim texts texts.fillFrom), past ++ [.transform key]) := by
  rw [afterTransform, Registry.run_bind_of_run (Registry.run_query_of_answer hanswer)]
  rcases answer with reason | _ | t <;> rfl

namespace ServedModule

def keeping (m : ServedModule) (t : Option Transform) : ServedModule :=
  { m with transform := t }

theorem exists_transformKey? {m : ServedModule}
    (hm : (∃ id, m.id = some id ∧ id ≠ "") ∨ m.url ≠ "") : ∃ key, m.transformKey? = some key := by
  rw [← Option.ne_none_iff_exists', transformKey?]
  intro hnone
  obtain ⟨hid, hurl⟩ := Option.or_eq_none_iff.mp hnone
  rcases hm with ⟨id, hsome, hne⟩ | hne
  · rw [hsome] at hid
    exact hne (presentText?_eq_none_iff.mp hid)
  · exact hne (presentText?_eq_none_iff.mp hurl)

/-! ## Locations -/

/-- Where a position was authored by a map, itself if there is none. -/
def authoredBy [DomainForms] (map : Option SourceMap) (p : Position) : Position :=
  if p.line = 0 ∨ p.column = 0 then p else (map.bind (mappedPosition? · p)).getD p

theorem run_locate [DomainForms] {r : Registry} {m : ServedModule} {past later : List Query}
    {map : Option SourceMap} (hmap : r.run m.map? past = (some map, later)) (p : Position) :
    (r.run (m.locate p) past).1 = some (authoredBy map p) := by
  unfold locate authoredBy
  by_cases hunknown : p.line = 0 ∨ p.column = 0
  · rw [if_pos hunknown, if_pos hunknown]
    rfl
  · rw [if_neg hunknown, if_neg hunknown, Registry.run_bind_of_run hmap]
    cases map <;> rfl

section

variable {r : Registry} {m : ServedModule} {key : String} {t : Transform}
  {answer : List Query → Except RegistryError (Option Transform)}

/-- If the transform is kept without a map, a request brings up none either. -/
theorem run_map?_keeping (hkey : m.transformKey? = some key)
    (hanswer : ∀ past other, (answer past).toOption.join = some other → other = t)
    (past : List Query) :
    ∃ later, (r.transforming m answer).run (m.keeping t).map? past = (some t.map, later) := by
  have hcached : (m.keeping t).cachedMap? = t.map := rfl
  have hkey' : (m.keeping t).transformKey? = some key := hkey
  cases hmap : t.map with
  | some map =>
      rw [map?, hcached, hmap]
      exact ⟨past, rfl⟩
  | none =>
      refine ⟨past ++ [.transform key], ?_⟩
      rw [run_map?_of_answer (hcached.trans hmap) hkey'
        (Registry.transforming_answer_transform hkey past)]
      cases hfound : (answer past).toOption.join with
      | none => rfl
      | some other =>
          obtain rfl := hanswer past other hfound
          rw [Option.bind_some, hmap]

theorem run_map?_bare (hkey : m.transformKey? = some key) (past : List Query) :
    (r.transforming m fun _ => .ok (some t)).run (m.keeping none).map? past =
      (some t.map, past ++ [.transform key]) := by
  have hcached : (m.keeping none).cachedMap? = none := rfl
  have hkey' : (m.keeping none).transformKey? = some key := hkey
  rw [run_map?_of_answer hcached hkey' (Registry.transforming_answer_transform hkey past)]
  rfl

end

end ServedModule

/-! ## Texts -/

namespace SourceTexts

def ofTransform (t : Transform) : SourceTexts :=
  ⟨t.map.bind SourceMap.firstContent?, some t.code⟩

theorem fillFrom_ofTransform (t : Transform) : (ofTransform t).fillFrom t = ofTransform t := by
  rw [fillFrom, ofTransform, Option.or_self, Option.or_self]

section

variable {r : Registry} {m : ServedModule} {key : String} {t : Transform}
  {answer : List Query → Except RegistryError (Option Transform)}

theorem transforming_run_firstReadable (files : List String) (past : List Query) :
    (r.transforming m answer).run (firstReadable files) past =
      r.run (firstReadable files) past := by
  induction files generalizing past with
  | nil => rfl
  | cons file rest ih =>
      rw [firstReadable, Registry.run_bind, Registry.run_bind, Inquiry.query, Registry.run,
        Registry.run, Registry.transforming_answer_read]
      cases r.answer past (.read file) with
      | none => rfl
      | some answer =>
          cases answer with
          | error reason => exact ih _
          | ok text => rfl

theorem transforming_run_afterDisk (texts : SourceTexts) (files : List String) (past : List Query) :
    (r.transforming m answer).run (texts.afterDisk files) past =
      r.run (texts.afterDisk files) past := by
  rw [afterDisk]
  cases texts.authored with
  | some text => rfl
  | none =>
      simp only
      rw [Registry.run_bind, Registry.run_bind, transforming_run_firstReadable]
      rfl

theorem run_retrieve_bare [DomainForms] (hkey : m.transformKey? = some key) (root path : String)
    (candidates : CandidateSet) (past : List Query) :
    (r.transforming m fun _ => .ok (some t)).run
        (retrieve root (some (m.keeping none)) path candidates) past =
      r.run ((ofTransform t).afterDisk (files root (some m) path))
        (past ++ [.transform key]) := by
  have hkey' : transformKey? (some (m.keeping none)) candidates = some key := by
    change m.transformKey?.or _ = _
    rw [hkey, Option.some_or]
  have hincomplete : ¬(cached (some (m.keeping none))).isComplete = true := Bool.false_ne_true
  rw [retrieve, hkey', if_neg hincomplete]
  have hanswer : (r.transforming m fun _ => .ok (some t)).answer past (.transform key) =
      some (.ok (some t)) := Registry.transforming_answer_transform hkey past
  rw [Registry.run_bind_of_run (run_afterTransform_of_answer _ hanswer)]
  exact transforming_run_afterDisk _ _ _

/-- A kept transform that is complete is used at once; otherwise the request adds nothing to it. -/
theorem run_retrieve_keeping [DomainForms] (hkey : m.transformKey? = some key)
    (hanswer : ∀ past other, (answer past).toOption.join = some other → other = t)
    (root path : String) (candidates : CandidateSet) (past : List Query) :
    (r.transforming m answer).run
        (retrieve root (some (m.keeping t)) path candidates) past =
      if (ofTransform t).isComplete then (some (ofTransform t), past)
      else r.run ((ofTransform t).afterDisk (files root (some m) path))
        (past ++ [.transform key]) := by
  have hcached : cached (some (m.keeping t)) = ofTransform t := rfl
  have hkey' : transformKey? (some (m.keeping t)) candidates = some key := by
    change m.transformKey?.or _ = _
    rw [hkey, Option.some_or]
  rw [retrieve, hkey', hcached]
  by_cases hcomplete : (ofTransform t).isComplete = true
  · rw [if_pos hcomplete, if_pos hcomplete]
    rfl
  · have hfilled : (answer past).toOption.join.elim (ofTransform t) (ofTransform t).fillFrom =
        ofTransform t := by
      cases hfound : (answer past).toOption.join with
      | none => rfl
      | some other =>
          obtain rfl := hanswer past other hfound
          exact fillFrom_ofTransform other
    rw [if_neg hcomplete, if_neg hcomplete]
    have hrequest : (r.transforming m answer).answer past (.transform key) = some (answer past) :=
      Registry.transforming_answer_transform hkey past
    rw [Registry.run_bind_of_run (run_afterTransform_of_answer _ hrequest), hfilled]
    exact transforming_run_afterDisk _ _ _

theorem run_afterDisk_of_isComplete {texts : SourceTexts} (htexts : texts.isComplete = true)
    (files : List String) (past : List Query) :
    r.run (texts.afterDisk files) past = (some texts, past) := by
  rw [isComplete, Bool.and_eq_true] at htexts
  obtain ⟨text, htext⟩ := Option.isSome_iff_exists.mp htexts.1
  rw [afterDisk, htext]
  rfl

theorem exists_run_firstReadable
    (hread : ∀ past file, (r.answer past (.read file)).isSome = true) (files : List String)
    (past : List Query) :
    ∃ text later, r.run (firstReadable files) past = (some text, later) := by
  induction files generalizing past with
  | nil => exact ⟨none, past, rfl⟩
  | cons file rest ih =>
      obtain ⟨found, hfound⟩ := Option.isSome_iff_exists.mp (hread past file)
      rw [firstReadable, Registry.run_bind_of_run (Registry.run_query_of_answer hfound)]
      cases found with
      | error reason => exact ih _
      | ok text => exact ⟨some text, _, rfl⟩

theorem exists_run_afterDisk (hread : ∀ past file, (r.answer past (.read file)).isSome = true)
    (texts : SourceTexts) (files : List String) (past : List Query) :
    ∃ found, (r.run (texts.afterDisk files) past).1 = some found := by
  rw [afterDisk]
  cases texts.authored with
  | some text => exact ⟨texts, rfl⟩
  | none =>
      obtain ⟨text, later, hrun⟩ := exists_run_firstReadable hread files past
      exact ⟨_, congrArg Prod.fst (Registry.run_bind_of_run hrun _)⟩

end

end SourceTexts

/-- A module with its transform kept cannot be told from one whose transform is made on request: it
has the same locations and the same texts, although the request may yield nothing any more. -/
theorem ServedModule.keeping_indistinguishable [DomainForms] (r : Registry) {m : ServedModule}
    (hm : (∃ id, m.id = some id ∧ id ≠ "") ∨ m.url ≠ "") {t : Transform}
    {answer : List Query → Except RegistryError (Option Transform)}
    (hanswer : ∀ past other, (answer past).toOption.join = some other → other = t)
    (past : List Query) :
    let keeping := r.transforming m answer
    let making := r.transforming m fun _ => .ok (some t)
    let kept := m.keeping t
    let bare := m.keeping none
    (∀ p, ∃ authored,
        (keeping.run (kept.locate p) past).1 = some authored ∧
          (making.run (bare.locate p) past).1 = some authored) ∧
      ∀ path candidates,
        let keptTexts := SourceTexts.retrieve keeping.root (some kept) path candidates
        let madeTexts := SourceTexts.retrieve making.root (some bare) path candidates
        (keeping.run keptTexts past).1 = (making.run madeTexts past).1 ∧
          ((∀ past file, (r.answer past (.read file)).isSome = true) →
            ∃ texts, (making.run madeTexts past).1 = some texts) := by
  obtain ⟨key, hkey⟩ := exists_transformKey? hm
  refine ⟨?_, ?_⟩
  · intro p
    obtain ⟨later, hkept⟩ := run_map?_keeping (r := r) hkey hanswer past
    exact ⟨authoredBy t.map p, run_locate hkept p, run_locate (run_map?_bare hkey past) p⟩
  · intro path candidates
    have hmade := SourceTexts.run_retrieve_bare (r := r) (t := t) hkey r.root path candidates past
    have hkept :=
      SourceTexts.run_retrieve_keeping (r := r) hkey hanswer r.root path candidates past
    refine ⟨?_, ?_⟩
    · refine (congrArg Prod.fst hkept).trans (Eq.trans ?_ (congrArg Prod.fst hmade).symm)
      split
      · rename_i hcomplete
        rw [SourceTexts.run_afterDisk_of_isComplete hcomplete]
      · rfl
    · intro hread
      obtain ⟨texts, htexts⟩ := SourceTexts.exists_run_afterDisk hread (SourceTexts.ofTransform t)
        (SourceTexts.files r.root (some m) path) (past ++ [.transform key])
      exact ⟨texts, (congrArg Prod.fst hmade).trans htexts⟩

/-- The transform is kept with a map that holds no content, so it is requested once more, in vain,
and the file is read. -/
theorem ServedModule.keeping_indistinguishable_without_content :
    let r := ModuleStore.empty.registry "/work" fun _ => .ok "const a = 1"
    let m : ServedModule := ⟨"/app.js", none, some "/work/app.ts", none⟩
    let t : Transform := ⟨"var a = 1", some ⟨3, none, none, [some "app.ts"], none, [], "EAAC"⟩⟩
    let answer := fun _ : List Query => Except.error (RegistryError.transform "/app.js" "closed")
    let keeping := r.transforming m answer
    m.url ≠ "" ∧ (∀ past other, (answer past).toOption.join = some other → other = t) ∧
      (keeping.run ((m.keeping t).locate ⟨"/app.js", 1, 3⟩) []).1 = some ⟨"app.ts", 1, 2⟩ ∧
      (keeping.run (SourceTexts.retrieve keeping.root (some (m.keeping t)) "/app.js" .empty) []).1 =
        some ⟨some "const a = 1", some "var a = 1"⟩ := by
  intro r m t answer keeping
  have hurl : m.url ≠ "" := by decide
  have hanswer : ∀ past other, (answer past).toOption.join = some other → other = t := by
    intro past other hother
    cases hother
  obtain ⟨hlocate, htexts⟩ :=
    keeping_indistinguishable r (m := m) (.inr hurl) (t := t) hanswer []
  obtain ⟨authored, hkept, hmade⟩ := hlocate ⟨"/app.js", 1, 3⟩
  have hauthored : some authored = some ⟨"app.ts", 1, 2⟩ := hmade.symm.trans (by decide +kernel)
  refine ⟨hurl, hanswer, hkept.trans hauthored, (htexts "/app.js" .empty).1.trans ?_⟩
  decide +kernel

end ErrorOrigin
