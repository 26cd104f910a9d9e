import ErrorOrigin.Address.Label
import ErrorOrigin.Proofs.KeptTransform
import ErrorOrigin.Proofs.TriedFiles
import Mathlib.Tactic

/-!
# Retrieved texts

The texts of a module are those that are kept of it, else those of a transform that is requested,
and the authored text may come from a file after that.  Each of these steps is told by what it finds
and by the queries it takes: at most one request, and then files, one after the other until one can
be read.
-/

namespace ErrorOrigin

namespace SourceTexts

variable {r : Registry} {past : List Query} {m : Option ServedModule}
  {candidates : CandidateSet}

/-! ## The request -/

def contentOf (map : Option SourceMap) : Option String :=
  map.bind SourceMap.firstContent?

/-- The key is that of the module, else the first candidate. -/
inductive IsKey (m : Option ServedModule) (candidates : CandidateSet) : String → Prop where
  | served {n : ServedModule} {key : String} : m = some n → n.IsRequestedBy key →
      IsKey m candidates key
  | candidate {key : String} : (∀ n, m = some n → ∀ own, ¬n.IsRequestedBy own) →
      candidates.keys.head? = some key → IsKey m candidates key

/-- One of the texts is not kept, and this is the key to request a transform with. -/
structure IsNeeded (m : Option ServedModule) (candidates : CandidateSet) (key : String) :
    Prop where
  missing : contentOf (m.bind ServedModule.cachedMap?) = none ∨
    m.bind ServedModule.cachedCode? = none
  isKey : IsKey m candidates key

/-- The transform that is requested after past queries, and the queries this takes. -/
inductive Requests (r : Registry) (past : List Query) (m : Option ServedModule)
    (candidates : CandidateSet) : Option Transform → List Query → Prop where
  | unneeded : (∀ key, ¬IsNeeded m candidates key) → Requests r past m candidates none []
  | made {key : String} {t : Transform} : IsNeeded m candidates key →
      r.answer past (.transform key) = some (.ok (some t)) →
      Requests r past m candidates (some t) [.transform key]
  | missing {key : String} : IsNeeded m candidates key →
      r.answer past (.transform key) = some (.ok none) →
      Requests r past m candidates none [.transform key]
  | failed {key : String} {e : RegistryError} : IsNeeded m candidates key →
      r.answer past (.transform key) = some (.error e) →
      Requests r past m candidates none [.transform key]

theorem transformKey?_eq_some_iff {key : String} :
    transformKey? m candidates = some key ↔ IsKey m candidates key := by
  have hnone : m.bind ServedModule.transformKey? = none ↔
      ∀ n, m = some n → ∀ own, ¬n.IsRequestedBy own := by
    rw [Option.bind_eq_none_iff]
    refine forall₂_congr fun n _ => ?_
    rw [Option.eq_none_iff_forall_ne_some]
    exact forall_congr' fun own => not_congr ServedModule.transformKey?_eq_some_iff
  rw [transformKey?, Option.or_eq_some_iff, hnone, Option.bind_eq_some_iff]
  constructor
  · rintro (⟨n, hn, hkey⟩ | ⟨hkeyless, hfirst⟩)
    · exact .served hn (ServedModule.transformKey?_eq_some_iff.mp hkey)
    · exact .candidate hkeyless hfirst
  · rintro (⟨hn, hkey⟩ | ⟨hkeyless, hfirst⟩)
    · exact .inl ⟨_, hn, ServedModule.transformKey?_eq_some_iff.mpr hkey⟩
    · exact .inr ⟨hkeyless, hfirst⟩

/-- The key a transform is requested with, if one is. -/
def neededKey? (m : Option ServedModule) (candidates : CandidateSet) : Option String :=
  if (cached m).isComplete then none else transformKey? m candidates

theorem neededKey?_eq_some_iff {key : String} :
    neededKey? m candidates = some key ↔ IsNeeded m candidates key := by
  have hcomplete : ¬(cached m).isComplete = true ↔
      contentOf (m.bind ServedModule.cachedMap?) = none ∨
        m.bind ServedModule.cachedCode? = none := by
    rw [isComplete, Bool.and_eq_true, not_and_or, Option.not_isSome_iff_eq_none,
      Option.not_isSome_iff_eq_none]
    rfl
  rw [neededKey?]
  split
  · rename_i hkept
    exact iff_of_false (by simp) fun hneeded => hcomplete.mpr hneeded.missing hkept
  · rename_i hmissing
    rw [transformKey?_eq_some_iff]
    exact ⟨fun hkey => ⟨hcomplete.mp hmissing, hkey⟩, fun hneeded => hneeded.isKey⟩

theorem neededKey?_eq_none_iff :
    neededKey? m candidates = none ↔ ∀ key, ¬IsNeeded m candidates key := by
  rw [Option.eq_none_iff_forall_ne_some]
  exact forall_congr' fun key => not_congr neededKey?_eq_some_iff

/-- Texts that are complete pass both steps as they are, so the two can stand in a row. -/
theorem retrieve_eq_bind [DomainForms] (root : String) (m : Option ServedModule) (path : String)
    (candidates : CandidateSet) :
    retrieve root m path candidates =
      (cached m).afterTransform (neededKey? m candidates) >>= fun texts =>
        texts.afterDisk (files root m path) := by
  unfold retrieve neededKey?
  dsimp only
  split
  · rename_i hcomplete
    rw [isComplete, Bool.and_eq_true] at hcomplete
    obtain ⟨text, htext⟩ := Option.isSome_iff_exists.mp hcomplete.1
    rw [afterTransform, Inquiry.pure_bind, afterDisk, htext]
  · rfl

/-- The kept texts, and for what is missing of them those of the transform. -/
def filled (m : Option ServedModule) (transform : Option Transform) : SourceTexts where
  authored := (contentOf (m.bind ServedModule.cachedMap?)).or
    (transform.bind fun t => contentOf t.map)
  compiled := (m.bind ServedModule.cachedCode?).or (transform.map (·.code))

theorem filled_eq_elim (m : Option ServedModule) (transform : Option Transform) :
    filled m transform = transform.elim (cached m) (cached m).fillFrom := by
  cases transform with
  | none =>
      rw [filled, Option.bind_none, Option.map_none, Option.or_none, Option.or_none]
      rfl
  | some t => rfl

theorem Requests.run_afterTransform {transform : Option Transform} {requested : List Query}
    (h : Requests r past m candidates transform requested) :
    r.run ((cached m).afterTransform (neededKey? m candidates)) past =
      (some (filled m transform), past ++ requested) := by
  rw [filled_eq_elim]
  cases h with
  | unneeded hkey =>
      rw [neededKey?_eq_none_iff.mpr hkey, List.append_nil]
      rfl
  | made hkey hanswer | missing hkey hanswer | failed hkey hanswer =>
      rw [neededKey?_eq_some_iff.mpr hkey, run_afterTransform_of_answer _ hanswer]
      rfl

theorem exists_requests (hanswers : ∀ key, IsNeeded m candidates key →
      (r.answer past (.transform key)).isSome = true) :
    ∃ transform requested, Requests r past m candidates transform requested := by
  cases hkey : neededKey? m candidates with
  | none => exact ⟨none, [], .unneeded (neededKey?_eq_none_iff.mp hkey)⟩
  | some key =>
      have hneeded := neededKey?_eq_some_iff.mp hkey
      obtain ⟨answer, hanswer⟩ := Option.isSome_iff_exists.mp (hanswers key hneeded)
      rcases answer with e | t | t
      · exact ⟨none, _, .failed hneeded hanswer⟩
      · exact ⟨none, _, .missing hneeded hanswer⟩
      · exact ⟨some t, _, .made hneeded hanswer⟩

theorem exists_of_run_afterTransform {texts : SourceTexts} {later : List Query}
    (hrun : r.run ((cached m).afterTransform (neededKey? m candidates)) past =
      (some texts, later)) :
    ∃ transform requested, Requests r past m candidates transform requested ∧
      texts = filled m transform ∧ later = past ++ requested := by
  have hanswers : ∀ key, IsNeeded m candidates key →
      (r.answer past (.transform key)).isSome = true := by
    intro key hneeded
    by_contra hnone
    rw [Option.not_isSome_iff_eq_none] at hnone
    rw [neededKey?_eq_some_iff.mpr hneeded, afterTransform, Inquiry.query, Registry.run_bind,
      Registry.run, hnone] at hrun
    cases hrun
  obtain ⟨transform, requested, hrequests⟩ := exists_requests hanswers
  rw [hrequests.run_afterTransform] at hrun
  obtain ⟨htexts, rfl⟩ := Prod.mk.inj hrun
  exact ⟨transform, requested, hrequests, (Option.some.inj htexts).symm, rfl⟩

theorem asked_afterTransform (texts : SourceTexts) (key : Option String) :
    r.asked (texts.afterTransform key) past = (key.map Query.transform).toList := by
  cases key with
  | none => rfl
  | some key =>
      change r.asked (.ask (.transform key) _) past = [.transform key]
      rw [Registry.asked]
      cases r.answer past (.transform key) with
      | none => rfl
      | some answer => rcases answer with reason | _ | t <;> rfl

/-- The text of the first of these files that can be read, and the queries this takes. -/
inductive Reads (r : Registry) :
    (past : List Query) → (files : List String) → Option String → List Query → Prop where
  | exhausted {past : List Query} : Reads r past [] none []
  | found {past : List Query} {file : String} {rest : List String} {text : String} :
      r.answer past (.read file) = some (.ok text) →
      Reads r past (file :: rest) (some text) [.read file]
  | missed {past asked : List Query} {file : String} {rest : List String} {e : RegistryError}
      {found : Option String} : r.answer past (.read file) = some (.error e) →
      Reads r (past ++ [.read file]) rest found asked →
      Reads r past (file :: rest) found (.read file :: asked)

/-- The authored text: the one that is known, else that of a file. -/
inductive Authors (r : Registry) (past : List Query) (files : List String) :
    Option String → Option String → List Query → Prop where
  | known {text : String} : Authors r past files (some text) (some text) []
  | sought {found : Option String} {asked : List Query} : Reads r past files found asked →
      Authors r past files none found asked

theorem Reads.run_firstReadable {files : List String} {found : Option String}
    {asked : List Query} (h : Reads r past files found asked) :
    r.run (firstReadable files) past = (some found, past ++ asked) := by
  induction h with
  | exhausted =>
      rw [List.append_nil]
      rfl
  | found hanswer =>
      rw [firstReadable, Registry.run_bind_of_run (Registry.run_query_of_answer hanswer)]
      rfl
  | missed hanswer hrest ih =>
      rw [firstReadable, Registry.run_bind_of_run (Registry.run_query_of_answer hanswer)]
      refine ih.trans ?_
      rw [List.append_assoc, List.singleton_append]

theorem exists_of_run_firstReadable {files : List String} {found : Option String}
    {later : List Query} (hrun : r.run (firstReadable files) past = (some found, later)) :
    ∃ asked, Reads r past files found asked ∧ later = past ++ asked := by
  induction files generalizing past with
  | nil =>
      cases hrun
      exact ⟨[], .exhausted, by simp⟩
  | cons file rest ih =>
      cases hanswer : r.answer past (.read file) with
      | none =>
          rw [firstReadable, Inquiry.query, Registry.run_bind, Registry.run, hanswer] at hrun
          cases hrun
      | some answer =>
          rw [firstReadable,
            Registry.run_bind_of_run (Registry.run_query_of_answer hanswer)] at hrun
          cases answer with
          | ok text =>
              cases hrun
              exact ⟨_, .found hanswer, rfl⟩
          | error e =>
              obtain ⟨asked, hrest, rfl⟩ := ih hrun
              exact ⟨_, .missed hanswer hrest, by simp⟩

/-- Files are tried in order, also by a registry that breaks down over one of them. -/
theorem asked_firstReadable_prefix (files : List String) :
    r.asked (firstReadable files) past <+: files.map .read := by
  induction files generalizing past with
  | nil => exact List.prefix_rfl
  | cons file rest ih =>
      change r.asked (.ask (.read file) _) past <+: .read file :: rest.map .read
      rw [Registry.asked, List.prefix_cons_inj]
      cases r.answer past (.read file) with
      | none => exact List.nil_prefix
      | some answer =>
          cases answer with
          | ok text => exact List.nil_prefix
          | error e => exact ih

theorem Authors.run_afterDisk {texts : SourceTexts} {files : List String}
    {found : Option String} {asked : List Query}
    (h : Authors r past files texts.authored found asked) :
    r.run (texts.afterDisk files) past = (some ⟨found, texts.compiled⟩, past ++ asked) := by
  obtain ⟨authored, compiled⟩ := texts
  cases h with
  | known =>
      rw [List.append_nil]
      rfl
  | sought hreads => exact Registry.run_bind_of_run hreads.run_firstReadable _

theorem exists_of_run_afterDisk {texts retrieved : SourceTexts} {files : List String}
    {later : List Query} (hrun : r.run (texts.afterDisk files) past = (some retrieved, later)) :
    ∃ found asked, Authors r past files texts.authored found asked ∧
      retrieved = ⟨found, texts.compiled⟩ ∧ later = past ++ asked := by
  obtain ⟨authored, compiled⟩ := texts
  cases authored with
  | some text =>
      cases hrun
      exact ⟨some text, [], .known, rfl, by simp⟩
  | none =>
      obtain ⟨found, between, hfound, hrun⟩ := Registry.run_bind_eq_some_iff.mp hrun
      obtain ⟨asked, hreads, rfl⟩ := exists_of_run_firstReadable hfound
      cases hrun
      exact ⟨found, asked, .sought hreads, rfl, rfl⟩

theorem asked_afterDisk_of_known {texts : SourceTexts} (files : List String)
    (hknown : texts.authored ≠ none) : r.asked (texts.afterDisk files) past = [] := by
  obtain ⟨text, htext⟩ := Option.ne_none_iff_exists'.mp hknown
  rw [afterDisk, htext]
  rfl

theorem asked_afterDisk_prefix (texts : SourceTexts) (files : List String) :
    r.asked (texts.afterDisk files) past <+: files.map .read := by
  obtain ⟨authored, compiled⟩ := texts
  cases authored with
  | some text => exact List.nil_prefix
  | none =>
      have hpure : ∀ result : Option (Option String),
          (result.elim [] fun _ => ([] : List Query)) = [] := by
        intro result
        cases result <;> rfl
      have hasked : r.asked (afterDisk ⟨none, compiled⟩ files) past =
          r.asked (firstReadable files) past := by
        rw [afterDisk, Registry.asked_bind]
        exact (congrArg _ (hpure _)).trans (List.append_nil _)
      rw [hasked]
      exact asked_firstReadable_prefix files

/-! ## Retrieving -/

/-- The request is made if it is needed and not else, and files are tried if it leaves the authored
text missing.  This is so also where the registry breaks down. -/
theorem asked_retrieve [DomainForms] (r : Registry) (m : Option ServedModule) (path : String)
    (candidates : CandidateSet) (past : List Query) :
    ∃ requested read files,
      r.asked (retrieve r.root m path candidates) past = requested ++ read ∧
        (∀ key, IsNeeded m candidates key → requested = [.transform key]) ∧
        ((∀ key, ¬IsNeeded m candidates key) → requested = []) ∧
        Leads r.root m path files ∧ read <+: files.map .read ∧
        (read ≠ [] → ∃ transform, Requests r past m candidates transform requested ∧
          (filled m transform).authored = none) := by
  let first := (cached m).afterTransform (neededKey? m candidates)
  have hasked := r.asked_bind first (fun texts => texts.afterDisk (files r.root m path)) past
  have hrequested : r.asked first past = ((neededKey? m candidates).map Query.transform).toList :=
    asked_afterTransform _ _
  rw [← retrieve_eq_bind] at hasked
  refine ⟨_, _, _, hasked, ?_, ?_, files_eq_iff.mp rfl, ?_, ?_⟩
  · intro key hneeded
    rw [hrequested, neededKey?_eq_some_iff.mpr hneeded]
    rfl
  · intro hunneeded
    rw [hrequested, neededKey?_eq_none_iff.mpr hunneeded]
    rfl
  · cases (r.run first past).1 with
    | none => exact List.nil_prefix
    | some texts => exact asked_afterDisk_prefix texts _
  · intro hread
    cases hrun : (r.run first past).1 with
    | none =>
        rw [hrun] at hread
        exact absurd rfl hread
    | some texts =>
        rw [hrun] at hread
        obtain ⟨transform, requested, hrequests, rfl, hlater⟩ :=
          exists_of_run_afterTransform (Prod.ext hrun (r.run_snd first past))
        rw [List.append_cancel_left_eq] at hlater
        refine ⟨transform, hlater ▸ hrequests, ?_⟩
        by_contra hknown
        exact hread (asked_afterDisk_of_known _ hknown)

/-- The texts are those that are kept, else those of a transform, and the authored one else that of
a file.  The transform is requested once if a kept text is missing and there is a key, and never
else; files are read only while the authored text is missing, in order, up to the first that can
be.  What is asked is so also where the registry breaks down. -/
theorem retrieve_in_turn [DomainForms] (r : Registry) (m : Option ServedModule) (path : String)
    (candidates : CandidateSet) :
    let inquiry := retrieve r.root m path candidates
    (∀ past texts later, r.run inquiry past = (some texts, later) ↔
      ∃ transform requested files found read,
        Requests r past m candidates transform requested ∧ Leads r.root m path files ∧
          Authors r (past ++ requested) files (filled m transform).authored found read ∧
          texts = ⟨found, (filled m transform).compiled⟩ ∧
          later = past ++ requested ++ read) ∧
      ((∀ past key, (r.answer past (.transform key)).isSome = true) →
        (∀ past file, (r.answer past (.read file)).isSome = true) →
        ∀ past, ∃ texts later, r.run inquiry past = (some texts, later)) ∧
      ∀ past, ∃ requested read files,
        r.asked inquiry past = requested ++ read ∧
          (∀ key, IsNeeded m candidates key → requested = [.transform key]) ∧
          ((∀ key, ¬IsNeeded m candidates key) → requested = []) ∧
          Leads r.root m path files ∧ read <+: files.map .read ∧
          (read ≠ [] → ∃ transform, Requests r past m candidates transform requested ∧
            (filled m transform).authored = none) := by
  intro inquiry
  have hinquiry : inquiry = _ := retrieve_eq_bind r.root m path candidates
  have hfiles : Leads r.root m path (files r.root m path) := files_eq_iff.mp rfl
  refine ⟨?_, ?_, ?_⟩
  · intro past texts later
    rw [hinquiry, Registry.run_bind_eq_some_iff]
    constructor
    · rintro ⟨between, _, hfirst, hrest⟩
      obtain ⟨transform, requested, hrequests, rfl, rfl⟩ := exists_of_run_afterTransform hfirst
      obtain ⟨found, read, hauthors, rfl, rfl⟩ := exists_of_run_afterDisk hrest
      exact ⟨transform, requested, _, found, read, hrequests, hfiles, hauthors, rfl, rfl⟩
    · rintro ⟨transform, requested, list, found, read, hrequests, hleads, hauthors, rfl, rfl⟩
      rw [files_eq_iff.mpr hleads]
      exact ⟨_, _, hrequests.run_afterTransform, hauthors.run_afterDisk⟩
  · intro htransforms hreads past
    have hanswers : ∀ key, IsNeeded m candidates key →
        (r.answer past (.transform key)).isSome = true :=
      fun key _ => htransforms past key
    obtain ⟨transform, requested, hrequests⟩ := exists_requests hanswers
    obtain ⟨texts, htexts⟩ := exists_run_afterDisk hreads (filled m transform)
      (files r.root m path) (past ++ requested)
    rw [hinquiry, Registry.run_bind_of_run hrequests.run_afterTransform]
    exact ⟨texts, _, Prod.ext htexts rfl⟩
  · exact asked_retrieve r m path candidates

/-- A module whose code is kept without a map, asked for at an address of another spelling. -/
theorem retrieve_in_turn_of_code_kept :
    let r := ModuleStore.empty.registry "/work/" fun file =>
      if file = "/work/src/my app.ts" then .ok "const a = 1"
      else .error (.read file "no such file")
    let m : ServedModule := ⟨"/src/my app.ts", none, none, some ⟨"var a = 1", none⟩⟩
    let inquiry := retrieve r.root (some m) "HTTP://localhost:3000/src/my%20app.ts?t=1" .empty
    (∀ past key, (r.answer past (.transform key)).isSome = true) ∧
      (∀ past file, (r.answer past (.read file)).isSome = true) ∧
      (∃ texts later, r.run inquiry [] = (some texts, later)) ∧
      r.run inquiry [] =
        (some ⟨some "const a = 1", some "var a = 1"⟩,
          [.transform "/src/my app.ts", .read "/work/src/my app.ts"]) := by
  intro r m inquiry
  have htransforms : ∀ past key, (r.answer past (.transform key)).isSome = true :=
    fun _ _ => rfl
  have hreads : ∀ past file, (r.answer past (.read file)).isSome = true :=
    fun _ _ => rfl
  obtain ⟨hruns, hexists, -⟩ :=
    retrieve_in_turn r (some m) "HTTP://localhost:3000/src/my%20app.ts?t=1" .empty
  refine ⟨htransforms, hreads, hexists htransforms hreads [], (hruns [] _ _).mpr ?_⟩
  have hunknown : ModuleStore.empty.transform "/src/my app.ts" = .ok none := by
    simp [ModuleStore.transform, ModuleStore.empty]
  have hrequests : Requests r [] (some m) .empty none [.transform "/src/my app.ts"] :=
    .missing ⟨.inl rfl, .served rfl (.url rfl (by decide))⟩ (congrArg some hunknown)
  have hfiles : Leads "/work/" (some m) "HTTP://localhost:3000/src/my%20app.ts?t=1"
      ["/work/src/my app.ts"] :=
    files_eq_iff.mp (by decide +kernel)
  exact ⟨none, _, _, _, _, hrequests, hfiles, .sought (.found rfl), rfl, rfl⟩

end SourceTexts

end ErrorOrigin
