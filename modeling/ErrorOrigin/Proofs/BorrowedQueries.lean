import ErrorOrigin.Address.Label
import ErrorOrigin.Proofs.WebAddress
import ErrorOrigin.Report.Case
import Mathlib.Tactic

/-!
# Borrowed queries

Another error of the incident may show the query with which the file was served.  The frames in
which it is looked for stand in one sequence: those of the records beside the selected one, then
those of the whole chain.  The file gets the query of the first frame of this sequence that shows
one for it, and is left as it is for a reason that can be told.
-/

namespace ErrorOrigin.Case

/-- The records beside the selected one, then those of the whole chain. -/
def consultedRecords (c : Case) : List ErrorRecord :=
  c.records.take c.index ++ c.records.drop (c.index + 1) ++
    c.request.allErrors.flatMap Incident.records

/-- The frames of these records, of each as many as are kept. -/
def consulted (settings : Settings) (c : Case) : List Stack.Frame :=
  c.consultedRecords.flatMap fun record =>
    record.stack.elim [] (Stack.read · settings.frameLimit)

def withPrimary (c : Case) (record : ErrorRecord) : Case :=
  { c with
    records := c.records.set c.index record
    index := c.index.cast (List.length_set).symm }

theorem consultedRecords_withPrimary (c : Case) (record : ErrorRecord) :
    (c.withPrimary record).consultedRecords = c.consultedRecords := by
  have hbefore : (c.records.set c.index record).take c.index = c.records.take c.index :=
    List.take_set_of_le le_rfl
  have hafter : (c.records.set c.index record).drop (c.index + 1) =
      c.records.drop (c.index + 1) :=
    List.drop_set_of_lt (Nat.lt_succ_self _)
  change (c.records.set c.index record).take c.index ++
    (c.records.set c.index record).drop (c.index + 1) ++ _ = _
  rw [hbefore, hafter]
  rfl

theorem otherStacks_eq (c : Case) : c.otherStacks = c.consultedRecords.filterMap (·.stack) := by
  rw [otherStacks, consultedRecords, List.eraseIdx_eq_take_drop_succ]

/-! ## What a frame shows -/

/-- The path by which a file is recognised: that of the page, or the file itself if it is no claim
to be a web address. -/
inductive IsOwnPath [DomainForms] (file : String) : String → Prop
  | page {a : Address} (hpage : Address.IsPage file a) : IsOwnPath file a.path
  | plain (hplain : ∀ scheme, ¬Address.StartsWeb file.toList scheme) : IsOwnPath file file

/-- The frame is on a page with this query, and the page has the given path, or one of the two paths
ends in the other. -/
def Shows [DomainForms] (own : String) (f : Stack.Frame) (query : String) : Prop :=
  ∃ file a, f.file = some file ∧ Address.IsPage file a ∧ a.query = some query ∧ query ≠ "" ∧
    (own = a.path ∨ a.path.toList <:+ own.toList ∨ own.toList <:+ a.path.toList)

theorem ownPath?_eq_some_iff [DomainForms] {file own : String} :
    ownPath? file = some own ↔ IsOwnPath file own := by
  rw [ownPath?]
  by_cases hclaims : Address.claimsWeb file = true
  · rw [if_pos hclaims, Option.map_eq_some_iff]
    constructor
    · rintro ⟨a, hweb, rfl⟩
      exact .page ((Address.web?_eq_some_iff hclaims).mp hweb)
    · intro hown
      cases hown with
      | page hpage => exact ⟨_, (Address.web?_eq_some_iff hclaims).mpr hpage, rfl⟩
      | plain hplain =>
          obtain ⟨scheme, hstarts⟩ := Address.claimsWeb_iff.mp hclaims
          exact absurd hstarts (hplain scheme)
  · rw [if_neg hclaims, Option.some.injEq]
    rw [Address.claimsWeb_iff] at hclaims
    constructor
    · rintro rfl
      exact .plain fun scheme hstarts => hclaims ⟨scheme, hstarts⟩
    · intro hown
      cases hown with
      | page hpage => exact absurd hpage.starts hclaims
      | plain => rfl

theorem ownPath?_eq_none_iff [DomainForms] {file : String} :
    ownPath? file = none ↔ ∀ own, ¬IsOwnPath file own := by
  simp only [Option.eq_none_iff_forall_ne_some, ne_eq, ownPath?_eq_some_iff]

theorem search?_eq_some_iff {a : Address} {query : String} :
    a.search? = some query ↔ a.query = some query ∧ query ≠ "" := by
  rw [Address.search?, Option.filter_eq_some_iff]
  simp

theorem queryOfFrame?_eq_some_iff [DomainForms] {own : String} {f : Stack.Frame} {query : String} :
    queryOfFrame? own f = some query ↔ Shows own f query := by
  rw [queryOfFrame?, Shows]
  cases hfile : f.file with
  | none => simp
  | some file =>
      by_cases hclaims : Address.claimsWeb file = true
      · simp only [Option.bind_eq_bind, Option.bind_some, if_pos hclaims, Option.bind_eq_some_iff,
          Address.web?_eq_some_iff hclaims, search?_eq_some_iff, String.toList_inj,
          List.isSuffixOf_iff_suffix]
        constructor
        · rintro ⟨a, hpage, shown, ⟨hquery, hne⟩, hshown⟩
          split at hshown
          · rename_i hpath
            obtain rfl := Option.some.inj hshown
            exact ⟨file, a, rfl, hpage, hquery, hne, hpath⟩
          · cases hshown
        · rintro ⟨_, a, hsame, hpage, hquery, hne, hpath⟩
          obtain rfl := Option.some.inj hsame
          exact ⟨a, hpage, query, ⟨hquery, hne⟩, if_pos hpath⟩
      · have hnone : ∀ a, ¬Address.IsPage file a :=
          fun a hpage => hclaims (Address.claimsWeb_iff.mpr hpage.starts)
        simp only [Option.bind_eq_bind, Option.bind_some, if_neg hclaims, Option.bind_none]
        constructor
        · intro hshown
          cases hshown
        · rintro ⟨_, a, hsame, hpage, -⟩
          obtain rfl := Option.some.inj hsame
          exact absurd hpage (hnone a)

theorem queryOfFrame?_eq_none_iff [DomainForms] {own : String} {f : Stack.Frame} :
    queryOfFrame? own f = none ↔ ∀ query, ¬Shows own f query := by
  simp only [Option.eq_none_iff_forall_ne_some, ne_eq, queryOfFrame?_eq_some_iff]

/-! ## The first query -/

theorem borrowedQuery?_eq_findSome? [DomainForms] (settings : Settings) (records : List ErrorRecord)
    (own : String) :
    borrowedQuery? settings (records.filterMap (·.stack)) own =
      (records.flatMap fun record =>
        record.stack.elim [] (Stack.read · settings.frameLimit)).findSome? (queryOfFrame? own) := by
  rw [borrowedQuery?]
  induction records with
  | nil => rfl
  | cons record rest ih =>
      rw [List.flatMap_cons, List.findSome?_append, ← ih]
      cases hstack : record.stack with
      | none => simp [hstack]
      | some stack =>
          rw [List.filterMap_cons_some hstack, List.findSome?_cons, Option.elim_some]
          cases (Stack.read stack settings.frameLimit).findSome? (queryOfFrame? own) <;> rfl

/-- The address of a file after a query was looked for, with the reason why it is left as it is, or
the frame that the query is taken from. -/
inductive Completes [DomainForms] (settings : Settings) (c : Case) (file : String) : String → Prop
  | queried (hmark : '?' ∈ file.toList) : Completes settings c file file
  | pathless (hpath : ∀ own, ¬IsOwnPath file own) : Completes settings c file file
  | short {own : String} (hown : IsOwnPath file own)
      (hshort : own.utf8ByteSize < settings.scoring.leastSubstring) :
      Completes settings c file file
  | unshown {own : String} (hown : IsOwnPath file own)
      (hnone : ∀ f ∈ c.consulted settings, ∀ query, ¬Shows own f query) :
      Completes settings c file file
  | borrowed {own query : String} {before after : List Stack.Frame} {f : Stack.Frame}
      (hmark : '?' ∉ file.toList) (hown : IsOwnPath file own)
      (hlong : settings.scoring.leastSubstring ≤ own.utf8ByteSize)
      (hframes : c.consulted settings = before ++ f :: after)
      (hbefore : ∀ g ∈ before, ∀ other, ¬Shows own g other) (hshows : Shows own f query) :
      Completes settings c file (file ++ "?" ++ query)

theorem Completes.withQuery_eq [DomainForms] {settings : Settings} {c : Case}
    {file address : String} (hcompletes : c.Completes settings file address) :
    withQuery settings c.otherStacks file = address := by
  rw [withQuery, otherStacks_eq]
  cases hcompletes with
  | queried hmark => exact if_pos hmark
  | pathless hpath =>
      rw [ownPath?_eq_none_iff.mpr hpath]
      exact ite_self file
  | short hown hshort =>
      rw [ownPath?_eq_some_iff.mpr hown, Option.bind_eq_bind, Option.bind_some, if_pos hshort]
      exact ite_self file
  | @unshown own hown hnone =>
      have hquery :
          borrowedQuery? settings (c.consultedRecords.filterMap (·.stack)) own = none := by
        rw [borrowedQuery?_eq_findSome?, List.findSome?_eq_none_iff]
        exact fun f hf => queryOfFrame?_eq_none_iff.mpr (hnone f hf)
      rw [ownPath?_eq_some_iff.mpr hown, Option.bind_eq_bind, Option.bind_some, hquery]
      simp
  | @borrowed own query before after f hmark hown hlong hframes hbefore hshows =>
      have hquery : borrowedQuery? settings (c.consultedRecords.filterMap (·.stack)) own =
          some query := by
        rw [borrowedQuery?_eq_findSome?, List.findSome?_eq_some_iff]
        exact ⟨before, f, after, hframes, queryOfFrame?_eq_some_iff.mpr hshows,
          fun g hg => queryOfFrame?_eq_none_iff.mpr (hbefore g hg)⟩
      rw [ownPath?_eq_some_iff.mpr hown, Option.bind_eq_bind, Option.bind_some,
        if_neg (Nat.not_lt.mpr hlong), hquery, if_neg hmark]
      rfl

theorem exists_completes [DomainForms] (settings : Settings) (c : Case) (file : String) :
    ∃ address, c.Completes settings file address := by
  by_cases hmark : '?' ∈ file.toList
  · exact ⟨file, .queried hmark⟩
  · cases hown : ownPath? file with
    | none => exact ⟨file, .pathless (ownPath?_eq_none_iff.mp hown)⟩
    | some own =>
        have hown := ownPath?_eq_some_iff.mp hown
        by_cases hshort : own.utf8ByteSize < settings.scoring.leastSubstring
        · exact ⟨file, .short hown hshort⟩
        · cases hquery : (c.consulted settings).findSome? (queryOfFrame? own) with
          | none =>
              rw [List.findSome?_eq_none_iff] at hquery
              exact ⟨file, .unshown hown fun f hf => queryOfFrame?_eq_none_iff.mp (hquery f hf)⟩
          | some query =>
              obtain ⟨before, f, after, hframes, hshows, hbefore⟩ :=
                List.findSome?_eq_some_iff.mp hquery
              exact ⟨_, .borrowed hmark hown (Nat.not_lt.mp hshort) hframes
                (fun g hg => queryOfFrame?_eq_none_iff.mp (hbefore g hg))
                (queryOfFrame?_eq_some_iff.mp hshows)⟩

/-- A file is given the first query that is shown for it, or none for one of four reasons.  What the
selected record is does not matter. -/
theorem withQuery_eq_iff [DomainForms] (settings : Settings) (c : Case) (file : String) :
    (∀ address, withQuery settings c.otherStacks file = address ↔
      c.Completes settings file address) ∧
    ∀ record, withQuery settings (c.withPrimary record).otherStacks file =
      withQuery settings c.otherStacks file := by
  refine ⟨fun address => ⟨?_, Completes.withQuery_eq⟩, ?_⟩
  · rintro rfl
    obtain ⟨address, hcompletes⟩ := exists_completes settings c file
    rwa [hcompletes.withQuery_eq]
  · intro record
    rw [otherStacks_eq, otherStacks_eq, consultedRecords_withPrimary]

/-- The selected record is not asked, a page of another path shows nothing for the file, and the
whole chain comes last. -/
example :
    let stack (address : String) : String := "Error: boom\n    at f (" ++ address ++ ":1:1)"
    let record (address : String) : ThrownError := ⟨"Error", "boom", some (stack address)⟩
    let incident : Incident := .aggregate (record "")
      [.single (record "http://localhost/src/App.tsx?t=1"),
        .single (record "http://localhost/lib/App.tsx?t=2"),
        .single (record "http://localhost/base/src/App.tsx?t=3")]
    let chain : List Incident := [.single (record "http://localhost/src/App.tsx?t=4")]
    let c := ofIncident {} incident { allErrors := chain }
    withQuery {} c.otherStacks "/src/App.tsx" = "/src/App.tsx?t=3" := by
  decide +kernel

end ErrorOrigin.Case
