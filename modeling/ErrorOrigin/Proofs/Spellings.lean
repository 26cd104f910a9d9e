import ErrorOrigin.Address.Label
import ErrorOrigin.Proofs.LoneModule
import ErrorOrigin.Proofs.PercentText
import ErrorOrigin.Proofs.TextCuts
import ErrorOrigin.Proofs.WebAddress
import Mathlib.Tactic

/-!
# Spellings of an identifier

What the candidates of an identifier are is told here without the functions that compute them: each
spelling is related to the identifier by the text that was left out of it or decoded.  The spellings
are determined, and the candidates are what remains of them when the empty ones are left out and
each is kept where it stands first.
-/

namespace ErrorOrigin

open Text

/-! ## Parts of a text -/

namespace Text

/-- The text without one slash at its start, if it has one there. -/
inductive IsWithoutSlash : String → String → Prop
  | slash (rest : String) : IsWithoutSlash ("/" ++ rest) rest
  | same {text : String} (hhead : text.toList.head? ≠ some '/') : IsWithoutSlash text text

/-- The text up to its first question mark, or all of it. -/
inductive IsBeforeMark : String → String → Prop
  | mark {path : String} (rest : String) (hpath : '?' ∉ path.toList) :
      IsBeforeMark (path ++ "?" ++ rest) path
  | same {path : String} (hpath : '?' ∉ path.toList) : IsBeforeMark path path

/-- What an escaped text stands for, if its bytes are those of a text. -/
def IsDecoded (text : String) (decoded : Option String) : Prop :=
  ∀ plain, decoded = some plain ↔ percentDecodeBytes text.toList = bytes plain.toList

theorem isDecoded_iff {text : String} {decoded : Option String} :
    IsDecoded text decoded ↔ decoded = percentDecode? text.toList := by
  have hdecode : ∀ plain, percentDecode? text.toList = some plain ↔
      percentDecodeBytes text.toList = bytes plain.toList := by
    intro plain
    constructor
    · intro hplain
      exact (bytes_of_ofBytes?_eq_some hplain).symm
    · intro hbytes
      rw [percentDecode?, hbytes, ofBytes?_bytes, String.ofList_toList]
  constructor
  · intro hdecoded
    apply Option.ext
    intro plain
    rw [hdecoded plain, hdecode plain]
  · rintro rfl
    exact hdecode

end Text

namespace CandidateSet

theorem isWithoutSlash_iff {text rest : String} :
    IsWithoutSlash text rest ↔ rest = withoutSlash text := by
  have hsame : ∀ {text : String}, text.toList.head? ≠ some '/' → withoutSlash text = text := by
    intro text hhead
    rw [withoutSlash]
    split
    · rename_i tail htext
      rw [htext] at hhead
      exact absurd rfl hhead
    · rfl
  constructor
  · rintro (rest | hhead)
    · have htext : ("/" ++ rest).toList = '/' :: rest.toList := by simp
      rw [withoutSlash, htext]
      exact String.ofList_toList.symm
    · exact (hsame hhead).symm
  · rintro rfl
    by_cases hhead : text.toList.head? = some '/'
    · obtain ⟨tail, htail⟩ := List.head?_eq_some_iff.mp hhead
      have htext : text = "/" ++ String.ofList tail := by
        rw [← String.toList_inj, htail]
        simp
      have hdrop : withoutSlash text = String.ofList tail := by
        rw [withoutSlash, htail]
        rfl
      rw [hdrop, htext]
      exact .slash _
    · rw [hsame hhead]
      exact .same hhead

theorem isBeforeMark_iff {text path : String} :
    IsBeforeMark text path ↔ path = String.ofList (upTo '?' text.toList) := by
  have hupTo : path = String.ofList (upTo '?' text.toList) ↔
      upTo '?' text.toList = path.toList := by
    rw [← String.toList_inj, String.toList_ofList, eq_comm]
  rw [hupTo, upTo_eq_iff]
  constructor
  · rintro (⟨rest, hpath⟩ | hpath)
    · exact ⟨'?' :: rest.toList, by simp, hpath, .inr rfl⟩
    · exact ⟨[], (List.append_nil _).symm, hpath, .inl rfl⟩
  · rintro ⟨rest, htext, hpath, rfl | hhead⟩
    · rw [List.append_nil, String.toList_inj] at htext
      rw [htext]
      exact .same hpath
    · obtain ⟨tail, rfl⟩ := List.head?_eq_some_iff.mp hhead
      have hsplit : text = path ++ "?" ++ String.ofList tail := by
        rw [← String.toList_inj, htext]
        simp
      rw [hsplit]
      exact .mark _ hpath

/-- What a path has below the mount point, if it lies below one: the rest from a slash on. -/
def IsBelowMount (mount path : String) (below : Option String) : Prop :=
  ∀ rest, below = some rest ↔
    mount ≠ "" ∧ path = mount ++ rest ∧ rest.toList.head? = some '/'

theorem isBelowMount_iff {mount path : String} {below : Option String} :
    IsBelowMount mount path below ↔ below = belowMount? mount path := by
  have hfound : ∀ rest, belowMount? mount path = some rest ↔
      mount ≠ "" ∧ path = mount ++ rest ∧ rest.toList.head? = some '/' := by
    intro rest
    rw [belowMount?]
    constructor
    · intro hbelow
      split at hbelow
      · cases hbelow
      · rename_i hmount
        obtain ⟨tail, hdrop, hkept⟩ := Option.bind_eq_some_iff.mp hbelow
        split at hkept
        · rename_i hhead
          obtain rfl : String.ofList tail = rest := Option.some.inj hkept
          refine ⟨hmount, ?_, by rwa [String.toList_ofList]⟩
          rw [← String.toList_inj, eq_of_dropStart?_eq_some hdrop]
          simp
        · cases hkept
    · rintro ⟨hmount, rfl, hhead⟩
      rw [if_neg hmount, String.toList_append, dropStart?_append]
      simp [hhead]
  constructor
  · intro hbelow
    apply Option.ext
    intro rest
    rw [hbelow rest, hfound rest]
  · rintro rfl
    exact hfound

/-! ## Spellings -/

/-- A page with its path and its query, if that is not empty. -/
inductive IsPathAndQuery (a : Address) : String → Prop
  | query {query : String} (hquery : a.query = some query) (hne : query ≠ "") :
      IsPathAndQuery a (a.path ++ "?" ++ query)
  | path (hquery : a.query = none ∨ a.query = some "") : IsPathAndQuery a a.path

theorem isPathAndQuery_iff {a : Address} {full : String} :
    IsPathAndQuery a full ↔ full = a.pathAndSearch := by
  rw [Address.pathAndSearch, Address.search?]
  constructor
  · intro hfull
    cases hfull with
    | query hquery hne => rw [hquery, Option.filter_some, if_pos (decide_eq_true hne)]
    | path hquery => rcases hquery with hquery | hquery <;> rw [hquery] <;> rfl
  · rintro rfl
    cases hquery : a.query with
    | none => exact .path (.inl hquery)
    | some query =>
        by_cases hne : query = ""
        · subst hne
          exact .path (.inr hquery)
        · rw [Option.filter_some, if_pos (decide_eq_true hne)]
          exact .query hquery hne

/-- The address up to its path: what is left of it without its query and its fragment. -/
def IsUpToPath (a : Address) (address : String) : Prop :=
  a.write = address ++ a.query.elim "" ("?" ++ ·) ++ a.fragment.elim "" ("#" ++ ·)

theorem isUpToPath_iff {a : Address} {address : String} :
    IsUpToPath a address ↔ address = a.writeToPath := by
  rw [IsUpToPath, Address.write, String.append_assoc, String.append_assoc, eq_comm,
    String.append_left_inj]

/-- The spellings of an identifier, in the order in which they are tried. -/
inductive Spells [DomainForms] (mount raw : String) : List String → Prop
  | plain {slashless path : String} {below decoded decodedPath : Option String}
      (hplain : ∀ scheme, ¬Address.StartsWeb raw.toList scheme)
      (hslashless : IsWithoutSlash raw slashless) (hpath : IsBeforeMark raw path)
      (hbelow : IsBelowMount mount path below) (hdecoded : IsDecoded raw decoded)
      (hdecodedPath : IsDecoded path decodedPath) :
      Spells mount raw
        ([raw, slashless, path] ++ below.toList ++ decoded.toList ++ decodedPath.toList)
  | page {a : Address} {full slashless slashlessPath address : String}
      {below decoded decodedPath : Option String} (hpage : Address.IsPage raw a)
      (hfull : IsPathAndQuery a full) (hslashless : IsWithoutSlash full slashless)
      (hslashlessPath : IsWithoutSlash a.path slashlessPath)
      (hbelow : IsBelowMount mount a.path below) (hdecoded : IsDecoded full decoded)
      (hdecodedPath : IsDecoded a.path decodedPath) (haddress : IsUpToPath a address) :
      Spells mount raw
        ([full, a.path, slashless, slashlessPath] ++ below.toList ++ decoded.toList ++
          decodedPath.toList ++ [raw, address])
  | malformed {scheme : String} (hstarts : Address.StartsWeb raw.toList scheme)
      (hread : Address.read? raw = none) : Spells mount raw []

theorem spells_plain_iff [DomainForms] {mount raw : String} (hraw : Address.claimsWeb raw = false)
    (forms : List String) : Spells mount raw forms ↔ forms = plainForms mount raw := by
  have hplain : ∀ scheme, ¬Address.StartsWeb raw.toList scheme := by
    intro scheme hstarts
    rw [Address.claimsWeb_iff.mpr ⟨scheme, hstarts⟩] at hraw
    cases hraw
  constructor
  · intro hspells
    cases hspells with
    | plain _ hslashless hpath hbelow hdecoded hdecodedPath =>
        rw [isWithoutSlash_iff.mp hslashless, isDecoded_iff.mp hdecoded,
          isDecoded_iff.mp hdecodedPath, isBelowMount_iff.mp hbelow, isBeforeMark_iff.mp hpath]
        rfl
    | page hpage => exact absurd hpage.starts.choose_spec (hplain _)
    | malformed hstarts => exact absurd hstarts (hplain _)
  · rintro rfl
    exact .plain hplain (isWithoutSlash_iff.mpr rfl) (isBeforeMark_iff.mpr rfl)
      (isBelowMount_iff.mpr rfl) (isDecoded_iff.mpr rfl) (isDecoded_iff.mpr rfl)

theorem spells_page_iff [DomainForms] {mount raw : String} {a : Address}
    (hpage : Address.IsPage raw a)
    (forms : List String) : Spells mount raw forms ↔ forms = webForms mount raw a := by
  constructor
  · intro hspells
    cases hspells with
    | plain hplain => exact absurd hpage.starts.choose_spec (hplain _)
    | page hpage' hfull hslashless hslashlessPath hbelow hdecoded hdecodedPath haddress =>
        obtain rfl := Option.some.inj (hpage.read.symm.trans hpage'.read)
        rw [isWithoutSlash_iff.mp hslashless, isWithoutSlash_iff.mp hslashlessPath,
          isDecoded_iff.mp hdecoded, isDecoded_iff.mp hdecodedPath, isBelowMount_iff.mp hbelow,
          isUpToPath_iff.mp haddress, isPathAndQuery_iff.mp hfull]
        rfl
    | malformed _ hread =>
        rw [hpage.read] at hread
        cases hread
  · rintro rfl
    exact .page hpage (isPathAndQuery_iff.mpr rfl) (isWithoutSlash_iff.mpr rfl)
      (isWithoutSlash_iff.mpr rfl) (isBelowMount_iff.mpr rfl) (isDecoded_iff.mpr rfl)
      (isDecoded_iff.mpr rfl) (isUpToPath_iff.mpr rfl)

theorem spells_malformed_iff [DomainForms] {mount raw scheme : String}
    (hstarts : Address.StartsWeb raw.toList scheme) (hread : Address.read? raw = none)
    (forms : List String) : Spells mount raw forms ↔ forms = [] := by
  constructor
  · intro hspells
    cases hspells with
    | plain hplain => exact absurd hstarts (hplain _)
    | page hpage =>
        rw [hpage.read] at hread
        cases hread
    | malformed => rfl
  · rintro rfl
    exact .malformed hstarts hread

/-- An identifier has one list of spellings, and its candidates are made of them. -/
theorem exists_spells [DomainForms] (mount raw : String) :
    ∃ forms, (∀ other, Spells mount raw other ↔ other = forms) ∧
      ofIdentifier raw mount = ofForms forms := by
  rw [ofIdentifier]
  by_cases hclaims : Address.claimsWeb raw = true
  · rw [if_pos hclaims]
    cases hweb : Address.web? raw with
    | some a =>
        exact ⟨_, spells_page_iff ((Address.web?_eq_some_iff hclaims).mp hweb), rfl⟩
    | none =>
        obtain ⟨scheme, hstarts⟩ := Address.claimsWeb_iff.mp hclaims
        have hread : Address.read? raw = none := by
          rw [Option.eq_none_iff_forall_ne_some]
          intro a hread
          rw [(Address.web?_eq_some_iff hclaims).mpr (hstarts.isPage hread)] at hweb
          cases hweb
        exact ⟨[], spells_malformed_iff hstarts hread, rfl⟩
  · rw [if_neg hclaims]
    exact ⟨_, spells_plain_iff (Bool.eq_false_of_not_eq_true hclaims), rfl⟩

/-- Adding forms one after the other keeps, of those that are not there yet, each where it stands
first. -/
theorem keys_foldl_push (forms : List String) (s : CandidateSet) :
    (forms.foldl push s).keys =
      s.keys ++ ((forms.filter (· ≠ "")).filter (· ∉ s.keys)).eraseDups := by
  induction forms generalizing s with
  | nil => simp
  | cons form rest ih =>
      rw [List.foldl_cons, ih]
      by_cases hknown : form = "" ∨ form ∈ s.keys
      · have hsame : s.push form = s := by rw [push, dif_pos hknown]
        have hdropped : ((form :: rest).filter (· ≠ "")).filter (· ∉ s.keys) =
            (rest.filter (· ≠ "")).filter (· ∉ s.keys) := by
          rcases hknown with rfl | hmem
          · rfl
          · by_cases hempty : form = "" <;> simp [hempty, hmem]
        rw [hsame, hdropped]
      · have hkeys : (s.push form).keys = s.keys ++ [form] := by rw [push, dif_neg hknown]
        rw [not_or] at hknown
        have hfirst : ((form :: rest).filter (· ≠ "")).filter (· ∉ s.keys) =
            form :: (rest.filter (· ≠ "")).filter (· ∉ s.keys) := by
          simp [hknown.1, hknown.2]
        -- what equals the new key is left out of the rest on both sides
        have hrest : (rest.filter (· ≠ "")).filter (· ∉ s.keys ++ [form]) =
            ((rest.filter (· ≠ "")).filter (· ∉ s.keys)).filter (!· == form) := by
          rw [List.filter_filter, List.filter_filter, List.filter_filter]
          apply List.filter_congr
          intro other _
          simp [Bool.beq_eq_decide_eq, and_comm]
        rw [hkeys, hfirst, hrest, List.eraseDups_cons, List.append_assoc, List.singleton_append]

theorem keys_ofForms (forms : List String) :
    (ofForms forms).keys = (forms.filter (· ≠ "")).eraseDups := by
  have hkeys := keys_foldl_push forms empty
  simpa [ofForms, empty] using hkeys

/-- The candidates of an identifier are its spellings in their order, each where it stands first and
none empty.  A text that is no claim to be a web address is its own first candidate. -/
theorem keys_ofIdentifier [DomainForms] (raw mount : String) :
    let keys := (ofIdentifier raw mount).keys
    (∃ forms, (∀ other, Spells mount raw other ↔ other = forms) ∧
        keys = (forms.filter (· ≠ "")).eraseDups) ∧
      "" ∉ keys ∧ keys.Nodup ∧
      (raw ≠ "" → (∀ scheme, ¬Address.StartsWeb raw.toList scheme) →
        keys.head? = some raw) := by
  intro keys
  obtain ⟨forms, hforms, hmade⟩ := exists_spells mount raw
  have hkeys : keys = (forms.filter (· ≠ "")).eraseDups := by
    rw [← keys_ofForms, ← hmade]
  refine ⟨⟨forms, hforms, hkeys⟩, (ofIdentifier raw mount).empty_notMem,
    (ofIdentifier raw mount).nodup, ?_⟩
  intro hraw hplain
  have hclaims : Address.claimsWeb raw = false := by
    rw [← Bool.not_eq_true, Address.claimsWeb_iff]
    exact fun hstarts => hplain _ hstarts.choose_spec
  obtain rfl := (hforms _).mp ((spells_plain_iff hclaims (plainForms mount raw)).mpr rfl)
  rw [hkeys, plainForms]
  simp [hraw, List.eraseDups_cons]

/-- The path of a mounted file with a query, both of them in escapes. -/
theorem keys_ofIdentifier_of_escaped_query :
    let raw := "/@fs/my%20lib/a.ts?v=%31"
    let forms := [raw, "@fs/my%20lib/a.ts?v=%31", "/@fs/my%20lib/a.ts", "/my%20lib/a.ts",
      "/@fs/my lib/a.ts?v=1", "/@fs/my lib/a.ts"]
    let keys := (ofIdentifier raw "/@fs").keys
    raw ≠ "" ∧ (∀ scheme, ¬Address.StartsWeb raw.toList scheme) ∧ Spells "/@fs" raw forms ∧
      keys = forms ∧ keys.head? = some raw := by
  intro raw forms keys
  have hraw : raw ≠ "" := by decide
  have hplain : ∀ scheme, ¬Address.StartsWeb raw.toList scheme := by
    intro scheme hstarts
    have hclaims := Address.claimsWeb_iff.mpr ⟨scheme, hstarts⟩
    revert hclaims
    decide
  obtain ⟨⟨list, hlist, hkeys⟩, -, -, hfirst⟩ := keys_ofIdentifier raw "/@fs"
  have hforms : Spells "/@fs" raw forms := by
    rw [spells_plain_iff (by decide)]
    decide +kernel
  obtain rfl := (hlist forms).mp hforms
  exact ⟨hraw, hplain, hforms, hkeys.trans (by decide), hfirst hraw hplain⟩

/-- An address with a fragment and the number that its scheme implies. -/
example : (ofIdentifier "http://localhost:80/src/a.ts#top" "/@fs").keys =
    ["/src/a.ts", "src/a.ts", "http://localhost:80/src/a.ts#top", "http://localhost/src/a.ts"] := by
  decide +kernel

/-- An address whose domain is brought into ASCII. -/
example :
    let _ : DomainForms := ⟨fun domain =>
      if domain = "bücher.example".toList then some "xn--bcher-kva.example".toList else none⟩
    (ofIdentifier "http://bücher.example/src/a.js" "/@fs").keys =
      ["/src/a.js", "src/a.js", "http://bücher.example/src/a.js",
        "http://xn--bcher-kva.example/src/a.js"] := by
  decide +kernel

end CandidateSet

end ErrorOrigin
