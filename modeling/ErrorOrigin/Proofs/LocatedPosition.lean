import ErrorOrigin.Address.Label
import ErrorOrigin.Location
import ErrorOrigin.Proofs.FramePosition
import ErrorOrigin.Proofs.InquiryAnswers
import ErrorOrigin.Proofs.KeptTransform
import ErrorOrigin.Proofs.QuotedSource
import ErrorOrigin.Proofs.WebAddress
import Mathlib.Tactic

/-!
# Where a position leads

Locating a position takes two steps, which are told apart here.  A map is obtained for the module,
kept or by a single request, or there is none; and the map leads somewhere, or back to the position
it was asked for.  What it leads to has a line and a column, but its file is without a name where
the entry of the source is empty and nothing precedes it.
-/

namespace ErrorOrigin

variable {r : Registry} {past asked : List Query} {m : ServedModule} {p located : Position}

namespace SourceMap

theorem underRoot_eq_empty_iff {root source : String} :
    underRoot root source = "" ↔ root = "" ∧ source = "" := by
  unfold underRoot
  split
  · rename_i hrooted
    rcases hrooted with rfl | hscheme | hslash
    · simp
    · have hsource : source ≠ "" := by
        rintro rfl
        revert hscheme
        decide
      simp [hsource]
    · have hsource : source ≠ "" := by
        rintro rfl
        cases hslash
      simp [hsource]
  · rename_i hrelative
    have hroot : root ≠ "" := fun hroot => hrelative (.inl hroot)
    split <;> simp [hroot]

/-- The position comes from a source whose entry is empty, in a map without a root. -/
structure IsNamelessAt (map : SourceMap) (line column : Nat) : Prop where
  rootless : map.sourceRoot.getD "" = ""
  comesFrom : ∃ t a origin, map.trace = .ok t ∧ t.anchor? line column = some a ∧
    a.origin? t.sources t.names = some origin ∧ nth? map.sources a.source = some (some "")

theorem nth?_map {α β : Type} (f : α → β) (list : List α) (index : Int) :
    nth? (list.map f) index = (nth? list index).map f := by
  rw [nth?, nth?, Option.map_bind]
  congr 1
  funext n
  exact List.getElem?_map

theorem Anchor.of_origin?_eq_some {a : Anchor} {sources : List (Option String)}
    {names : List String} {origin : Origin} (ha : a.origin? sources names = some origin) :
    nth? sources a.source = some (some origin.source) ∧ 1 ≤ origin.line ∧
      origin.line ≤ Position.greatest ∧ origin.column ≤ Position.greatest := by
  obtain ⟨entry, hentry, ha⟩ := Option.bind_eq_some_iff.mp ha
  obtain ⟨source, rfl, ha⟩ := Option.bind_eq_some_iff.mp ha
  split at ha
  · rename_i hbounds
    cases ha
    refine ⟨hentry, ?_⟩
    dsimp only
    omega
  · cases ha

theorem eq_empty_iff_isNamelessAt {map : SourceMap} {t : Trace} (htrace : map.trace = .ok t)
    {line column : Nat} {origin : Origin} (horigin : t.origin? line column = some origin) :
    origin.source = "" ↔ map.IsNamelessAt line column := by
  rw [Trace.origin?_eq_bind] at horigin
  obtain ⟨a, ha, horigin⟩ := Option.bind_eq_some_iff.mp horigin
  have hentry := (Anchor.of_origin?_eq_some horigin).1
  rw [sources_of_trace htrace, resolvedSources, nth?_map, Option.map_eq_some_iff] at hentry
  obtain ⟨entry, hentry, hwritten⟩ := hentry
  obtain ⟨source, rfl, hsource⟩ := Option.map_eq_some_iff.mp hwritten
  rw [← hsource, underRoot_eq_empty_iff]
  constructor
  · rintro ⟨hroot, rfl⟩
    exact ⟨hroot, t, a, origin, htrace, ha, horigin, hentry⟩
  · rintro ⟨hroot, t', a', origin', htrace', ha', -, hempty⟩
    cases htrace.symm.trans htrace'
    cases ha.symm.trans ha'
    cases hentry.symm.trans hempty
    exact ⟨hroot, rfl⟩

end SourceMap

namespace ServedModule

/-! ## Obtaining a map -/

/-- The key to request a transform with: the identifier, or the address of a module without one. -/
inductive IsRequestedBy (m : ServedModule) : String → Prop where
  | id {key : String} : m.id = some key → key ≠ "" → m.IsRequestedBy key
  | url : m.id.getD "" = "" → m.url ≠ "" → m.IsRequestedBy m.url

theorem bind_presentText?_eq_none_iff {id : Option String} :
    id.bind presentText? = none ↔ id.getD "" = "" := by
  cases id with
  | none => simp
  | some id => exact presentText?_eq_none_iff

theorem transformKey?_eq_some_iff {key : String} :
    m.transformKey? = some key ↔ m.IsRequestedBy key := by
  rw [transformKey?, Option.or_eq_some_iff, Option.bind_eq_some_iff, bind_presentText?_eq_none_iff]
  simp only [presentText?_eq_some_iff]
  constructor
  · rintro (⟨_, hid, rfl, hne⟩ | ⟨hid, rfl, hne⟩)
    · exact .id hid hne
    · exact .url hid hne
  · rintro (⟨hid, hne⟩ | ⟨hid, hne⟩)
    · exact .inl ⟨key, hid, rfl, hne⟩
    · exact .inr ⟨hid, rfl, hne⟩

/-- The map obtained for a module after past queries, and the queries this takes. -/
inductive Obtains (r : Registry) (past : List Query) (m : ServedModule) :
    Option SourceMap → List Query → Prop where
  | kept {map : SourceMap} : m.cachedMap? = some map → Obtains r past m (some map) []
  | keyless : m.cachedMap? = none → (∀ key, ¬m.IsRequestedBy key) → Obtains r past m none []
  | made {key : String} {t : Transform} : m.cachedMap? = none → m.IsRequestedBy key →
      r.answer past (.transform key) = some (.ok (some t)) →
      Obtains r past m t.map [.transform key]
  | missing {key : String} : m.cachedMap? = none → m.IsRequestedBy key →
      r.answer past (.transform key) = some (.ok none) → Obtains r past m none [.transform key]
  | failed {key : String} {e : RegistryError} : m.cachedMap? = none → m.IsRequestedBy key →
      r.answer past (.transform key) = some (.error e) → Obtains r past m none [.transform key]

namespace Obtains

variable {map : Option SourceMap}

theorem exists_of_answer {key : String} {answer : Except RegistryError (Option Transform)}
    (hcached : m.cachedMap? = none) (hkey : m.IsRequestedBy key)
    (hanswer : r.answer past (.transform key) = some answer) :
    ∃ map asked, m.Obtains r past map asked := by
  rcases answer with e | (_ | t)
  · exact ⟨_, _, .failed hcached hkey hanswer⟩
  · exact ⟨_, _, .missing hcached hkey hanswer⟩
  · exact ⟨_, _, .made hcached hkey hanswer⟩

theorem exists_of_answers (hr : ∀ key, (r.answer past (.transform key)).isSome = true)
    (m : ServedModule) : ∃ map asked, m.Obtains r past map asked := by
  cases hcached : m.cachedMap? with
  | some map => exact ⟨_, _, .kept hcached⟩
  | none =>
      by_cases hkey : ∃ key, m.IsRequestedBy key
      · obtain ⟨key, hkey⟩ := hkey
        obtain ⟨answer, hanswer⟩ := Option.isSome_iff_exists.mp (hr key)
        exact exists_of_answer hcached hkey hanswer
      · exact ⟨_, _, .keyless hcached (not_exists.mp hkey)⟩

theorem length_le_one (h : m.Obtains r past map asked) : asked.length ≤ 1 := by
  cases h <;> simp

theorem eq_nil_of_kept (h : m.Obtains r past map asked)
    (hcached : m.cachedMap?.isSome = true) : asked = [] := by
  obtain ⟨kept, hkept⟩ := Option.isSome_iff_exists.mp hcached
  cases h with
  | kept => rfl
  | keyless => rfl
  | made hnone => cases hkept.symm.trans hnone
  | missing hnone => cases hkept.symm.trans hnone
  | failed hnone => cases hkept.symm.trans hnone

theorem run_map? (h : m.Obtains r past map asked) :
    r.run m.map? past = (some map, past ++ asked) := by
  cases h with
  | kept hcached =>
      rw [map?, hcached, List.append_nil]
      rfl
  | keyless hcached hkeyless =>
      have hkey : m.transformKey? = none := by
        rw [Option.eq_none_iff_forall_ne_some]
        exact fun key hkey => hkeyless key (transformKey?_eq_some_iff.mp hkey)
      rw [map?, hcached, hkey, List.append_nil]
      rfl
  | made hcached hkey hanswer | missing hcached hkey hanswer | failed hcached hkey hanswer =>
      exact run_map?_of_answer hcached (transformKey?_eq_some_iff.mpr hkey) hanswer

theorem unique (h : m.Obtains r past map asked) {map' : Option SourceMap} {asked' : List Query}
    (h' : m.Obtains r past map' asked') : map = map' ∧ asked = asked' := by
  have hruns := h.run_map?.symm.trans h'.run_map?
  rw [Prod.mk.injEq, Option.some.injEq, List.append_cancel_left_eq] at hruns
  exact hruns

theorem of_run {later : List Query} (hrun : r.run m.map? past = (some map, later)) :
    ∃ asked, m.Obtains r past map asked ∧ later = past ++ asked := by
  have hobtains : ∃ map asked, m.Obtains r past map asked := by
    cases hcached : m.cachedMap? with
    | some map => exact ⟨_, _, .kept hcached⟩
    | none =>
        by_cases hkey : ∃ key, m.IsRequestedBy key
        · obtain ⟨key, hkey⟩ := hkey
          rw [map?, hcached, transformKey?_eq_some_iff.mpr hkey] at hrun
          obtain ⟨found, between, hfound, -⟩ := Registry.run_bind_eq_some_iff.mp hrun
          rw [Inquiry.query, Registry.run] at hfound
          cases hanswer : r.answer past (.transform key) with
          | none =>
              rw [hanswer] at hfound
              cases hfound
          | some answer => exact exists_of_answer hcached hkey hanswer
        · exact ⟨_, _, .keyless hcached (not_exists.mp hkey)⟩
  obtain ⟨map', asked, hobtains⟩ := hobtains
  have hruns := hobtains.run_map?.symm.trans hrun
  rw [Prod.mk.injEq, Option.some.injEq] at hruns
  obtain ⟨rfl, rfl⟩ := hruns
  exact ⟨asked, hobtains, rfl⟩

end Obtains

/-! ## Following a map -/

/-- What a source is fetched as if its module was fetched by this path. -/
inductive IsFetchedAs [DomainForms] (path source : String) : String → Prop where
  | joined {page target : Address} : Address.IsPage path page →
      Address.readFrom? (some page) source.toList = some target →
      IsFetchedAs path source target.write
  | unreadable {page : Address} : Address.IsPage path page →
      Address.readFrom? (some page) source.toList = none → IsFetchedAs path source source
  | verbatim : (∀ page, ¬Address.IsPage path page) → IsFetchedAs path source source

theorem claimsWeb_of_isPage [DomainForms] {path : String} {page : Address}
    (hpage : Address.IsPage path page) :
    Address.claimsWeb path = true :=
  Address.claimsWeb_iff.mpr hpage.starts

theorem sourceFrom_of_isPage [DomainForms] {path : String} {page : Address}
    (hpage : Address.IsPage path page)
    (source : String) : sourceFrom path source = page.resolve source := by
  have hweb := claimsWeb_of_isPage hpage
  rw [sourceFrom, if_pos hweb, (Address.web?_eq_some_iff hweb).mpr hpage, Option.elim_some]

theorem sourceFrom_of_not_isPage [DomainForms] {path : String}
    (hpath : ∀ page, ¬Address.IsPage path page)
    (source : String) : sourceFrom path source = source := by
  rw [sourceFrom]
  split
  · rename_i hweb
    have hnone : Address.web? path = none := by
      rw [Option.eq_none_iff_forall_ne_some]
      exact fun page hpage => hpath page ((Address.web?_eq_some_iff hweb).mp hpage)
    rw [hnone, Option.elim_none]
  · rfl

theorem isFetchedAs_iff [DomainForms] {path source file : String} :
    IsFetchedAs path source file ↔ sourceFrom path source = file := by
  constructor
  · rintro (⟨hpage, hread⟩ | ⟨hpage, hread⟩ | hpath)
    · rw [sourceFrom_of_isPage hpage, Address.resolve, hread, Option.elim_some]
    · rw [sourceFrom_of_isPage hpage, Address.resolve, hread, Option.elim_none]
    · exact sourceFrom_of_not_isPage hpath source
  · rintro rfl
    by_cases hpath : ∃ page, Address.IsPage path page
    · obtain ⟨page, hpage⟩ := hpath
      rw [sourceFrom_of_isPage hpage, Address.resolve]
      cases hread : Address.readFrom? (some page) source.toList with
      | some target => exact .joined hpage hread
      | none => exact .unreadable hpage hread
    · rw [not_exists] at hpath
      rw [sourceFrom_of_not_isPage hpath]
      exact .verbatim hpath

theorem IsFetchedAs.eq_empty_iff [DomainForms] {path source file : String}
    (h : IsFetchedAs path source file) :
    file = "" ↔ (∀ page, ¬Address.IsPage path page) ∧ source = "" := by
  rw [isFetchedAs_iff] at h
  subst file
  constructor
  · intro hempty
    have hpath : ∀ page, ¬Address.IsPage path page := by
      intro page hpage
      rw [sourceFrom_of_isPage hpage] at hempty
      exact hpage.resolve_ne_empty source hempty
    rw [sourceFrom_of_not_isPage hpath] at hempty
    exact ⟨hpath, hempty⟩
  · rintro ⟨hpath, rfl⟩
    exact sourceFrom_of_not_isPage hpath ""

/-- Where a map leads from a position, back to it if there is no map or no place in it. -/
inductive LeadsTo [DomainForms] (p : Position) : Option SourceMap → Position → Prop where
  | unmapped : LeadsTo p none p
  | rejected {map : SourceMap} {e : SourceMap.TraceError} :
      map.trace = .error e → LeadsTo p (some map) p
  | uncovered {map : SourceMap} {t : SourceMap.Trace} : map.trace = .ok t →
      t.origin? p.line (p.column - 1) = none → LeadsTo p (some map) p
  | mapped {map : SourceMap} {t : SourceMap.Trace} {origin : SourceMap.Origin} {file : String} :
      map.trace = .ok t → t.origin? p.line (p.column - 1) = some origin →
      IsFetchedAs p.file origin.source file →
      LeadsTo p (some map) ⟨file, origin.line, min (origin.column + 1) Position.greatest⟩

theorem leadsTo_iff [DomainForms] {map : Option SourceMap} :
    LeadsTo p map located ↔ (map.bind (mappedPosition? · p)).getD p = located := by
  constructor
  · intro h
    cases h with
    | unmapped => rfl
    | rejected htrace => simp [mappedPosition?, htrace, Except.toOption]
    | uncovered htrace horigin => simp [mappedPosition?, htrace, horigin, Except.toOption]
    | mapped htrace horigin hfile =>
        rw [isFetchedAs_iff] at hfile
        simp [mappedPosition?, htrace, horigin, hfile, Except.toOption]
  · rintro rfl
    cases map with
    | none => exact .unmapped
    | some map =>
        rw [Option.bind_some, mappedPosition?]
        cases htrace : map.trace with
        | error e => exact .rejected htrace
        | ok t =>
            cases horigin : t.origin? p.line (p.column - 1) with
            | none => simpa [Except.toOption, horigin] using LeadsTo.uncovered htrace horigin
            | some origin =>
                simpa [Except.toOption, horigin] using
                  LeadsTo.mapped htrace horigin (isFetchedAs_iff.mpr rfl)

theorem run_locate_of_unknown [DomainForms] (hp : p.line = 0 ∨ p.column = 0) :
    r.run (m.locate p) past = (some p, past) := by
  rw [locate, if_pos hp]
  rfl

theorem Obtains.run_locate [DomainForms] (hline : p.line ≠ 0) (hcolumn : p.column ≠ 0)
    {map : Option SourceMap} (hmap : m.Obtains r past map asked) (hleads : LeadsTo p map located) :
    r.run (m.locate p) past = (some located, past ++ asked) := by
  rw [leadsTo_iff] at hleads
  rw [locate, if_neg (not_or.mpr ⟨hline, hcolumn⟩), Registry.run_bind_of_run hmap.run_map?,
    ← hleads]
  cases map <;> rfl

/-- A run that locates a known position follows the map obtained for the module. -/
theorem exists_of_run_locate [DomainForms] (hline : p.line ≠ 0) (hcolumn : p.column ≠ 0)
    {later : List Query} (hrun : r.run (m.locate p) past = (some located, later)) :
    ∃ map asked, m.Obtains r past map asked ∧ LeadsTo p map located ∧ later = past ++ asked := by
  have hparts := hrun
  rw [locate, if_neg (not_or.mpr ⟨hline, hcolumn⟩)] at hparts
  obtain ⟨map, between, hmap, -⟩ := Registry.run_bind_eq_some_iff.mp hparts
  obtain ⟨asked, hobtains, -⟩ := Obtains.of_run hmap
  have hruns := (hobtains.run_locate hline hcolumn (leadsTo_iff.mpr rfl)).symm.trans hrun
  rw [Prod.mk.injEq, Option.some.injEq] at hruns
  exact ⟨map, asked, hobtains, leadsTo_iff.mpr hruns.1, hruns.2.symm⟩

/-- A position is located by the map obtained for its module, and is its own location where the map
has none; at most one transform is requested, and none if a map is kept. -/
theorem run_locate_of_answers [DomainForms]
    (hr : ∀ key, (r.answer past (.transform key)).isSome = true) (m : ServedModule) (p : Position) :
    (p.line = 0 ∨ p.column = 0 → r.run (m.locate p) past = (some p, past)) ∧
      (p.line ≠ 0 → p.column ≠ 0 →
        (∃ map asked located, m.Obtains r past map asked ∧ LeadsTo p map located ∧
          r.run (m.locate p) past = (some located, past ++ asked)) ∧
        ∀ map asked located, m.Obtains r past map asked → LeadsTo p map located →
          r.run (m.locate p) past = (some located, past ++ asked)) ∧
      ∃ asked, (r.run (m.locate p) past).2 = past ++ asked ∧ asked.length ≤ 1 ∧
        (m.cachedMap?.isSome = true → asked = []) := by
  obtain ⟨map, asked, hmap⟩ := Obtains.exists_of_answers hr m
  refine ⟨run_locate_of_unknown, ?_, ?_⟩
  · intro hline hcolumn
    refine ⟨⟨map, asked, _, hmap, leadsTo_iff.mpr rfl, ?_⟩, ?_⟩
    · exact hmap.run_locate hline hcolumn (leadsTo_iff.mpr rfl)
    · intro map asked located hmap hleads
      exact hmap.run_locate hline hcolumn hleads
  · by_cases hp : p.line = 0 ∨ p.column = 0
    · refine ⟨[], ?_, Nat.zero_le 1, fun _ => rfl⟩
      rw [run_locate_of_unknown hp, List.append_nil]
    · obtain ⟨hline, hcolumn⟩ := not_or.mp hp
      refine ⟨asked, ?_, hmap.length_le_one, hmap.eq_nil_of_kept⟩
      rw [hmap.run_locate hline hcolumn (leadsTo_iff.mpr rfl)]

/-- The transform is requested once, and its source is a reference from the page. -/
theorem run_locate_of_page :
    let t : Transform :=
      ⟨"var a = 1", some ⟨3, none, none, [some "../src/app.ts"], none, [], "EAAC"⟩⟩
    let r := Registry.ofModules [⟨"/dist/app.js", none, none, some t⟩]
    let m : ServedModule := ⟨"/dist/app.js", some "", none, none⟩
    (∀ key, (r.answer [] (.transform key)).isSome = true) ∧
      r.run (m.locate ⟨"HTTP://localhost:5173/dist/app.js?t=1", 1, 3⟩) [] =
        (some ⟨"http://localhost:5173/src/app.ts", 1, 2⟩, [.transform "/dist/app.js"]) := by
  intro t r m
  have hr : ∀ key, (r.answer [] (.transform key)).isSome = true := fun _ => rfl
  have hmade : m.Obtains r [] t.map [.transform "/dist/app.js"] := by
    apply Obtains.made rfl (.url rfl (by decide))
    rfl
  have hleads : LeadsTo ⟨"HTTP://localhost:5173/dist/app.js?t=1", 1, 3⟩ t.map
      ⟨"http://localhost:5173/src/app.ts", 1, 2⟩ :=
    leadsTo_iff.mpr (by decide +kernel)
  obtain ⟨-, hknown, -⟩ :=
    run_locate_of_answers hr m ⟨"HTTP://localhost:5173/dist/app.js?t=1", 1, 3⟩
  exact ⟨hr, (hknown (by decide) (by decide)).2 _ _ _ hmade hleads⟩

theorem LeadsTo.coordinates [DomainForms] (hp : p.IsUsable) {map : Option SourceMap}
    (h : LeadsTo p map located) :
    1 ≤ located.line ∧ located.line ≤ Position.greatest ∧
      1 ≤ located.column ∧ located.column ≤ Position.greatest := by
  have hself : 1 ≤ p.line ∧ p.line ≤ Position.greatest ∧
      1 ≤ p.column ∧ p.column ≤ Position.greatest :=
    ⟨hp.one_le_line, hp.line_le, hp.one_le_column, hp.column_le⟩
  cases h with
  | unmapped => exact hself
  | rejected => exact hself
  | uncovered => exact hself
  | mapped htrace horigin =>
      rw [SourceMap.Trace.origin?_eq_bind] at horigin
      obtain ⟨a, -, horigin⟩ := Option.bind_eq_some_iff.mp horigin
      obtain ⟨-, hline, hlineMax, -⟩ := SourceMap.Anchor.of_origin?_eq_some horigin
      have hgreatest : 1 ≤ Position.greatest := by decide
      dsimp only
      omega

theorem LeadsTo.isUsable_iff [DomainForms] (hp : p.IsUsable) {map : Option SourceMap}
    (h : LeadsTo p map located) :
    located.IsUsable ↔
      ¬((∀ page, ¬Address.IsPage p.file page) ∧
        ∃ named, map = some named ∧ named.IsNamelessAt p.line (p.column - 1)) := by
  obtain ⟨hline, hlineMax, hcolumn, hcolumnMax⟩ := h.coordinates hp
  have hfile : located.IsUsable ↔ located.file ≠ "" :=
    ⟨(·.file_ne), fun hne => ⟨hne, hline, hlineMax, hcolumn, hcolumnMax⟩⟩
  rw [hfile, not_iff_not]
  cases h with
  | unmapped => simp [hp.file_ne]
  | rejected htrace =>
      refine iff_of_false hp.file_ne ?_
      rintro ⟨-, _, ⟨⟩, -, t, a, origin, htrace', -⟩
      cases htrace.symm.trans htrace'
  | uncovered htrace horigin =>
      refine iff_of_false hp.file_ne ?_
      rintro ⟨-, _, ⟨⟩, -, t, a, origin, htrace', ha, horigin', -⟩
      cases htrace.symm.trans htrace'
      rw [SourceMap.Trace.origin?_eq_bind, ha, Option.bind_some, horigin'] at horigin
      cases horigin
  | mapped htrace horigin hfetched =>
      rw [hfetched.eq_empty_iff, SourceMap.eq_empty_iff_isNamelessAt htrace horigin]
      simp

/-- A usable position is located at a line and a column, and in a file that has a name unless the
map obtained has none there and no page gives it one. -/
theorem locate_isUsable_iff [DomainForms]
    (hr : ∀ key, (r.answer past (.transform key)).isSome = true)
    (m : ServedModule) (hp : p.IsUsable) :
    ∃ located, (r.run (m.locate p) past).1 = some located ∧
      1 ≤ located.line ∧ located.line ≤ Position.greatest ∧
      1 ≤ located.column ∧ located.column ≤ Position.greatest ∧
      (located.IsUsable ↔
        ¬((∀ page, ¬Address.IsPage p.file page) ∧
          ∃ map asked, m.Obtains r past (some map) asked ∧
            map.IsNamelessAt p.line (p.column - 1))) := by
  have hline : p.line ≠ 0 := Nat.one_le_iff_ne_zero.mp hp.one_le_line
  have hcolumn : p.column ≠ 0 := Nat.one_le_iff_ne_zero.mp hp.one_le_column
  obtain ⟨map, asked, hmap⟩ := Obtains.exists_of_answers hr m
  have hleads : LeadsTo p map _ := leadsTo_iff.mpr rfl
  obtain ⟨hlocatedLine, hlineMax, hlocatedColumn, hcolumnMax⟩ := hleads.coordinates hp
  refine ⟨_, congrArg Prod.fst (hmap.run_locate hline hcolumn hleads),
    hlocatedLine, hlineMax, hlocatedColumn, hcolumnMax, ?_⟩
  rw [hleads.isUsable_iff hp]
  apply not_congr
  apply and_congr_right
  intro _
  constructor
  · rintro ⟨named, rfl, hnameless⟩
    exact ⟨named, asked, hmap, hnameless⟩
  · rintro ⟨named, asked', hnamed, hnameless⟩
    exact ⟨named, (hmap.unique hnamed).1, hnameless⟩

/-- An empty reference from a page is the page. -/
theorem locate_isUsable_of_page :
    let r := Registry.ofModules []
    let m : ServedModule :=
      ⟨"/app.js", none, none, some ⟨"var a", some ⟨3, none, none, [some ""], none, [], "AAAA"⟩⟩⟩
    let p : Position := ⟨"http://localhost/app.js?t=1", 1, 1⟩
    p.IsUsable ∧ (∀ key, (r.answer [] (.transform key)).isSome = true) ∧
      ∃ located, (r.run (m.locate p) []).1 = some located ∧ located.IsUsable := by
  intro r m p
  have hp : p.IsUsable := by
    constructor <;> decide
  have hr : ∀ key, (r.answer [] (.transform key)).isSome = true := fun _ => rfl
  have hweb : Address.claimsWeb p.file = true := by decide
  have hread : (Address.web? p.file).isSome = true := by decide +kernel
  obtain ⟨page, hpage⟩ := Option.isSome_iff_exists.mp hread
  rw [Address.web?_eq_some_iff hweb] at hpage
  obtain ⟨located, hrun, -, -, -, -, husable⟩ := locate_isUsable_iff hr m hp
  exact ⟨hp, hr, located, hrun, husable.mpr fun hnone => hnone.1 page hpage⟩

/-- Without a page the empty entry is what the position is located in. -/
theorem locate_nameless :
    let r := Registry.ofModules []
    let m : ServedModule :=
      ⟨"/app.js", none, none, some ⟨"var a", some ⟨3, none, none, [some ""], none, [], "AAAA"⟩⟩⟩
    let p : Position := ⟨"/app.js", 1, 1⟩
    p.IsUsable ∧ (∀ key, (r.answer [] (.transform key)).isSome = true) ∧
      (r.run (m.locate p) []).1 = some ⟨"", 1, 1⟩ := by
  intro r m p
  have hp : p.IsUsable := by
    constructor <;> decide
  exact ⟨hp, fun _ => rfl, by decide +kernel⟩

end ServedModule

end ErrorOrigin
