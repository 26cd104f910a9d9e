import ErrorOrigin.Proofs.LocatedPosition
import ErrorOrigin.Proofs.PercentText
import ErrorOrigin.SourceTexts
import Mathlib.Data.List.DropRight
import Mathlib.Data.String.Basic
import Mathlib.Tactic

/-!
# Files to try

The authored text is looked for in the file that a module was made from, and else where the path
leads: a page to one file below the project, any other path to itself and to a file below the
project.  A path that only claims to be a page, or only has a query, leads nowhere.
-/

namespace ErrorOrigin

open Text

namespace SourceTexts

variable {m : Option ServedModule} {root path : String}

/-- The path below a directory, whose trailing slashes do not count. -/
def IsBelow (root path file : String) : Prop :=
  ∃ directory slashes, root.toList = directory ++ slashes ∧ (∀ c ∈ slashes, c = '/') ∧
    directory.getLast? ≠ some '/' ∧ file.toList = directory ++ path.toList

/-- Of a path that is no web address, the file is what precedes the query. -/
structure IsPlain (path file : String) : Prop where
  not_web : ∀ scheme, ¬Address.StartsWeb path.toList scheme
  before : ∃ query, path.toList = file.toList ++ query ∧ '?' ∉ file.toList ∧
    (query = [] ∨ query.head? = some '?')

inductive PathLeads [DomainForms] (root path : String) : List String → Prop where
  | page {a : Address} {file : String} : Address.IsPage path a → root ≠ "" →
      IsBelow root ((percentDecode? a.path.toList).getD a.path) file → PathLeads root path [file]
  | rootless {a : Address} : Address.IsPage path a → root = "" → PathLeads root path []
  | unreadable {scheme : String} : Address.StartsWeb path.toList scheme →
      (∀ a, ¬Address.IsPage path a) → PathLeads root path []
  | empty : IsPlain path "" → PathLeads root path []
  | plain {file : String} : IsPlain path file → file ≠ "" →
      (file.toList.head? ≠ some '/' ∨ root = "") → PathLeads root path [file]
  | rooted {file below : String} : IsPlain path file → file.toList.head? = some '/' →
      root ≠ "" → IsBelow root file below → PathLeads root path [file, below]

/-- The files that are tried for a module, or for a path without one. -/
inductive Leads [DomainForms] (root : String) (m : Option ServedModule) (path : String) :
    List String → Prop where
  | recorded {n : ServedModule} {file : String} : m = some n → n.file = some file → file ≠ "" →
      Leads root m path [file]
  | ofPath {files : List String} : (∀ n, m = some n → n.file.getD "" = "") →
      PathLeads root path files → Leads root m path files

/-! ## Directories and paths -/

theorem toList_withoutTrailingSlashes_eq_iff {root : String} {directory : List Char} :
    (withoutTrailingSlashes root).toList = directory ↔
      ∃ slashes, root.toList = directory ++ slashes ∧ (∀ c ∈ slashes, c = '/') ∧
        directory.getLast? ≠ some '/' := by
  have hkept : (withoutTrailingSlashes root).toList = root.toList.rdropWhile (· = '/') :=
    String.toList_ofList
  rw [hkept]
  constructor
  · rintro rfl
    refine ⟨root.toList.rtakeWhile (· = '/'), List.rdropWhile_append_rtakeWhile.symm, ?_, ?_⟩
    · intro c hc
      simpa using List.mem_rtakeWhile_imp hc
    · intro hlast
      have hne : root.toList.rdropWhile (· = '/') ≠ [] := by
        intro hnil
        rw [hnil] at hlast
        cases hlast
      have hslash := (List.getLast_eq_iff_getLast?_eq_some hne).mpr hlast
      exact List.rdropWhile_last_not _ _ hne (by simpa using hslash)
  · rintro ⟨slashes, hroot, hslashes, hlast⟩
    have hback : ∀ c ∈ slashes.reverse, decide (c = '/') = true := by
      simpa using hslashes
    have hself : directory.rdropWhile (· = '/') = directory := by
      rw [List.rdropWhile_eq_self_iff]
      intro hne hslash
      rw [List.getLast?_eq_some_getLast hne] at hlast
      exact hlast (congrArg some (by simpa using hslash))
    rw [hroot, List.rdropWhile, List.reverse_append, List.dropWhile_append_of_pos hback]
    exact hself

theorem isBelow_iff {file : String} :
    IsBelow root path file ↔ file = withoutTrailingSlashes root ++ path := by
  constructor
  · rintro ⟨directory, slashes, hroot, hslashes, hlast, hfile⟩
    have hdirectory := toList_withoutTrailingSlashes_eq_iff.mpr ⟨slashes, hroot, hslashes, hlast⟩
    rw [← String.toList_inj, String.toList_append, hdirectory, hfile]
  · rintro rfl
    obtain ⟨slashes, hroot, hslashes, hlast⟩ := toList_withoutTrailingSlashes_eq_iff.mp rfl
    exact ⟨_, slashes, hroot, hslashes, hlast, String.toList_append⟩

theorem isPlain_iff {file : String} :
    IsPlain path file ↔
      Address.claimsWeb path = false ∧ String.ofList (upTo '?' path.toList) = file := by
  have hweb : (∀ scheme, ¬Address.StartsWeb path.toList scheme) ↔
      Address.claimsWeb path = false := by
    rw [← not_exists, ← Address.claimsWeb_iff, Bool.not_eq_true]
  rw [← hweb, String.ofList_eq, upTo_eq_iff]
  exact ⟨fun h => ⟨h.not_web, h.before⟩, fun h => ⟨h.1, h.2⟩⟩

theorem head_decoded [DomainForms] {a : Address} (ha : Address.IsPage path a) :
    ((percentDecode? a.path.toList).getD a.path).toList.head? = some '/' := by
  have hhead := ha.head_path
  cases hdecoded : percentDecode? a.path.toList with
  | none => exact hhead
  | some text =>
      obtain ⟨rest, hpath⟩ := List.head?_eq_some_iff.mp hhead
      rw [hpath] at hdecoded
      exact head_of_percentDecode?_eq_some (by decide) (by decide) hdecoded

/-! ## The files that are tried -/

theorem belowRoot_of_head {text : String} (htext : text.toList.head? = some '/')
    (hroot : root ≠ "") : belowRoot root text = [withoutTrailingSlashes root ++ text] :=
  if_pos ⟨htext, hroot⟩

theorem belowRoot_of_not {text : String} (h : text.toList.head? ≠ some '/' ∨ root = "") :
    belowRoot root text = [] :=
  if_neg fun hboth => h.elim (fun hhead => hhead hboth.1) hboth.2

theorem PathLeads.filesOfPath_eq [DomainForms] {list : List String} (h : PathLeads root path list) :
    filesOfPath root path = list := by
  unfold filesOfPath
  cases h with
  | page ha hroot hfile =>
      have hclaims := Address.claimsWeb_iff.mpr ha.starts
      rw [if_pos hclaims, (Address.web?_eq_some_iff hclaims).mpr ha, isBelow_iff.mp hfile]
      exact belowRoot_of_head (head_decoded ha) hroot
  | rootless ha hroot =>
      have hclaims := Address.claimsWeb_iff.mpr ha.starts
      rw [if_pos hclaims, (Address.web?_eq_some_iff hclaims).mpr ha]
      exact belowRoot_of_not (.inr hroot)
  | unreadable hstarts hnone =>
      have hclaims := Address.claimsWeb_iff.mpr ⟨_, hstarts⟩
      have hweb : Address.web? path = none := by
        rw [Option.eq_none_iff_forall_ne_some]
        exact fun a ha => hnone a ((Address.web?_eq_some_iff hclaims).mp ha)
      rw [if_pos hclaims, hweb]
  | empty hplain =>
      obtain ⟨hclaims, hfile⟩ := isPlain_iff.mp hplain
      rw [if_neg (by simp [hclaims]), hfile]
      rfl
  | plain hplain hne hunrooted =>
      obtain ⟨hclaims, rfl⟩ := isPlain_iff.mp hplain
      rw [if_neg (by simp [hclaims])]
      dsimp only
      rw [if_neg hne, belowRoot_of_not hunrooted]
  | rooted hplain hhead hroot hbelow =>
      obtain ⟨hclaims, rfl⟩ := isPlain_iff.mp hplain
      have hne : String.ofList (upTo '?' path.toList) ≠ "" := by
        intro hempty
        rw [hempty] at hhead
        cases hhead
      rw [if_neg (by simp [hclaims])]
      dsimp only
      rw [if_neg hne, belowRoot_of_head hhead hroot, isBelow_iff.mp hbelow]

theorem exists_pathLeads [DomainForms] (root path : String) : ∃ list, PathLeads root path list := by
  by_cases hclaims : Address.claimsWeb path = true
  · cases hweb : Address.web? path with
    | none =>
        obtain ⟨scheme, hstarts⟩ := Address.claimsWeb_iff.mp hclaims
        refine ⟨[], .unreadable hstarts fun a ha => ?_⟩
        rw [(Address.web?_eq_some_iff hclaims).mpr ha] at hweb
        cases hweb
    | some a =>
        have ha := (Address.web?_eq_some_iff hclaims).mp hweb
        by_cases hroot : root = ""
        · exact ⟨[], .rootless ha hroot⟩
        · exact ⟨_, .page ha hroot (isBelow_iff.mpr rfl)⟩
  · rw [Bool.not_eq_true] at hclaims
    obtain ⟨file, hplain⟩ : ∃ file, IsPlain path file := ⟨_, isPlain_iff.mpr ⟨hclaims, rfl⟩⟩
    by_cases hempty : file = ""
    · exact ⟨[], .empty (hempty ▸ hplain)⟩
    · by_cases hrooted : file.toList.head? = some '/' ∧ root ≠ ""
      · exact ⟨_, .rooted hplain hrooted.1 hrooted.2 (isBelow_iff.mpr rfl)⟩
      · rw [not_and_or, not_not] at hrooted
        exact ⟨_, .plain hplain hempty hrooted⟩

theorem filesOfPath_eq_iff [DomainForms] {list : List String} :
    filesOfPath root path = list ↔ PathLeads root path list := by
  constructor
  · rintro rfl
    obtain ⟨list, hleads⟩ := exists_pathLeads root path
    rwa [hleads.filesOfPath_eq]
  · exact PathLeads.filesOfPath_eq

theorem files_eq_iff [DomainForms] {list : List String} :
    files root m path = list ↔ Leads root m path list := by
  unfold files
  cases hrecorded : m.bind fun n => n.file.bind ServedModule.presentText? with
  | none =>
      have hnone : ∀ n, m = some n → n.file.getD "" = "" := fun n hn =>
        ServedModule.bind_presentText?_eq_none_iff.mp (Option.bind_eq_none_iff.mp hrecorded n hn)
      simp only [filesOfPath_eq_iff]
      constructor
      · exact .ofPath hnone
      · rintro (⟨hn, hfile, hne⟩ | ⟨-, hleads⟩)
        · rw [hn] at hrecorded
          simp [hfile, ServedModule.presentText?_eq_none_iff, hne] at hrecorded
        · exact hleads
  | some file =>
      obtain ⟨n, rfl, hpresent⟩ := Option.bind_eq_some_iff.mp hrecorded
      obtain ⟨_, hfile, hpresent⟩ := Option.bind_eq_some_iff.mp hpresent
      obtain ⟨rfl, hne⟩ := ServedModule.presentText?_eq_some_iff.mp hpresent
      simp only
      constructor
      · rintro rfl
        exact .recorded rfl hfile hne
      · rintro (⟨hn, hother, -⟩ | ⟨hnone, -⟩)
        · cases hn
          rw [Option.some.inj (hfile.symm.trans hother)]
        · have hempty := hnone n rfl
          rw [hfile] at hempty
          exact absurd hempty hne

end SourceTexts

end ErrorOrigin
