import ErrorOrigin.Address.Label
import ErrorOrigin.Proofs.LoneModule
import ErrorOrigin.Proofs.PercentText
import ErrorOrigin.Proofs.TextCuts
import ErrorOrigin.Proofs.WebAddress
import Mathlib.Tactic

/-!
# Files below the mount point

A server asks for a file from outside the project by its escaped path below a mount point, perhaps
with a query.  The candidates of such an address hold the path without the mount point, still
escaped, and the whole of it unescaped, still mounted.  Neither is the path itself unless nothing
had to be escaped in it, and every other candidate is longer than the path.
-/

namespace ErrorOrigin

open Text

namespace Address

theorem claimsWeb_of_slash {text : String} (htext : text.toList.head? = some '/') :
    claimsWeb text = false := by
  rw [claimsWeb, List.any_eq_false]
  intro start hstart hclaims
  have hhead := congrArg List.head? (of_decide_eq_true hclaims)
  rw [List.head?_map, List.head?_take, htext] at hhead
  simp only [List.mem_cons, List.not_mem_nil, or_false] at hstart
  rcases hstart with rfl | rfl <;> revert hhead <;> decide

end Address

namespace CandidateSet

/-- Whether a server writes the character as it is in the path of a mounted file. -/
def isPlain (c : Char) : Bool :=
  c.isAlphanum || ['/', '.', '-', '_'].contains c

def escapedPath (path : String) : String :=
  String.ofList (percentEncode (fun c => !isPlain c) path.toList)

/-- The address of a file below a mount point, perhaps with a query. -/
def mounted (mount path : String) (query : Option String) : String :=
  mount ++ escapedPath path ++ query.elim "" ("?" ++ ·)

/-- A mount point is written like the start of a path without escapes. -/
structure IsMount (mount : String) : Prop where
  head : mount.toList.head? = some '/'
  no_percent : '%' ∉ mount.toList
  no_mark : '?' ∉ mount.toList

/-! ## Escaped paths -/

theorem toNat_of_isPlain {c : Char} (hc : isPlain c = true) : 0x20 ≤ c.toNat ∧ c.toNat < 0x7F := by
  rcases Bool.or_eq_true_iff.mp hc with hletter | hmark
  · rcases Bool.or_eq_true_iff.mp hletter with halpha | hdigit
    · have hbounds := toNat_of_isAlpha halpha
      omega
    · obtain ⟨hlow, hhigh⟩ := Char.isDigit_iff_toNat.mp hdigit
      exact ⟨le_trans (by decide) hlow, lt_of_le_of_lt hhigh (by decide)⟩
  · simp only [List.contains_eq_mem, List.mem_cons, List.not_mem_nil, or_false,
      decide_eq_true_eq] at hmark
    rcases hmark with rfl | rfl | rfl | rfl <;> decide

theorem isEscaped_iff {c : Char} : IsEscaped (fun c => !isPlain c) c ↔ isPlain c = false := by
  rw [IsEscaped, Bool.not_eq_true']
  constructor
  · intro hescaped
    by_contra hplain
    have hbounds := toNat_of_isPlain (Bool.eq_true_of_not_eq_false hplain)
    rcases hescaped with hcontrol | hhigh | hclass
    · omega
    · omega
    · exact hplain hclass
  · exact fun hclass => .inr (.inr hclass)

theorem escapedPath_eq_self_iff {path : String} :
    escapedPath path = path ↔ ∀ c ∈ path.toList, isPlain c = true := by
  rw [escapedPath, ← String.toList_inj, String.toList_ofList, percentEncode_eq_self_iff]
  simp only [isEscaped_iff, Bool.not_eq_false]

theorem not_mem_escapedPath_mark (path : String) : '?' ∉ (escapedPath path).toList := by
  rw [escapedPath, String.toList_ofList]
  intro hmem
  rcases mem_percentEncode hmem with ⟨-, hkept⟩ | hpercent | ⟨n, hn, hdigit⟩
  · exact hkept (isEscaped_iff.mpr rfl)
  · cases hpercent
  · revert n
    decide

theorem head_escapedPath {path : String} (hpath : path.toList.head? = some '/') :
    (escapedPath path).toList.head? = some '/' := by
  obtain ⟨rest, hrest⟩ := List.head?_eq_some_iff.mp hpath
  have hslash : ¬IsEscaped (fun c => !isPlain c) '/' := by
    rw [isEscaped_iff]
    decide
  rw [escapedPath, String.toList_ofList, hrest, percentEncode_cons_of_not_escaped hslash]
  rfl

theorem length_le_length_escapedPath (path : String) :
    path.toList.length ≤ (escapedPath path).toList.length := by
  rw [escapedPath, String.toList_ofList]
  exact length_le_length_percentEncode path.toList

/-! ## The candidates of a mounted path -/

section

variable {mount path : String}

theorem IsMount.exists_eq_cons (hmount : IsMount mount) : ∃ rest, mount.toList = '/' :: rest :=
  List.head?_eq_some_iff.mp hmount.head

theorem upTo_mounted (hmount : IsMount mount) (path : String) (query : Option String) :
    String.ofList (upTo '?' (mounted mount path query).toList) = mount ++ escapedPath path := by
  have hquery : upTo '?' (query.elim "" ("?" ++ ·)).toList = [] := by
    cases query with
    | none => rfl
    | some q =>
        have hmark : ("?" ++ q).toList = '?' :: q.toList := by simp
        rw [Option.elim_some, hmark]
        simp [upTo]
  have hbefore : '?' ∉ (mount ++ escapedPath path).toList := by
    rw [String.toList_append, List.mem_append, not_or]
    exact ⟨hmount.no_mark, not_mem_escapedPath_mark path⟩
  rw [mounted, String.toList_append, upTo_append_of_not_mem hbefore, hquery, List.append_nil,
    String.ofList_toList]

theorem belowMount?_append_escapedPath (hmount : IsMount mount)
    (hpath : path.toList.head? = some '/') :
    belowMount? mount (mount ++ escapedPath path) = some (escapedPath path) := by
  have hne : mount ≠ "" := by
    rintro rfl
    cases hmount.head
  rw [belowMount?, if_neg hne, String.toList_append, dropStart?_append]
  change (if (escapedPath path).toList.head? = some '/' then
    some (String.ofList (escapedPath path).toList) else none) = _
  rw [if_pos (head_escapedPath hpath), String.ofList_toList]

theorem percentDecodeBytes_mounted (hmount : IsMount mount) (path : String) (rest : List Char) :
    percentDecodeBytes ((mount ++ escapedPath path).toList ++ rest) =
      bytes (mount ++ path).toList ++ percentDecodeBytes rest := by
  rw [String.toList_append, List.append_assoc,
    percentDecodeBytes_append_of_no_percent hmount.no_percent, escapedPath, String.toList_ofList,
    percentDecodeBytes_percentEncode_append rfl, String.toList_append, bytes_append,
    List.append_assoc]

theorem percentDecode?_mounted (hmount : IsMount mount) (path : String) :
    percentDecode? (mount ++ escapedPath path).toList = some (mount ++ path) := by
  have hbytes := percentDecodeBytes_mounted hmount path []
  rw [List.append_nil] at hbytes
  rw [percentDecode?, hbytes, percentDecodeBytes, List.append_nil, ofBytes?_bytes,
    String.ofList_toList]

theorem mem_ofIdentifier_mounted_iff [DomainForms] (hmount : IsMount mount)
    (hpath : path.toList.head? = some '/') (query : Option String) {key : String} :
    key ∈ ofIdentifier (mounted mount path query) mount ↔
      (key = mounted mount path query ∨ key = withoutSlash (mounted mount path query) ∨
        key = mount ++ escapedPath path ∨ key = escapedPath path ∨
        percentDecode? (mounted mount path query).toList = some key ∨ key = mount ++ path) ∧
      key ≠ "" := by
  have hclaims : Address.claimsWeb (mounted mount path query) = false := by
    apply Address.claimsWeb_of_slash
    obtain ⟨rest, hrest⟩ := hmount.exists_eq_cons
    rw [mounted, String.toList_append, String.toList_append, hrest]
    rfl
  rw [ofIdentifier, if_neg (by simp [hclaims]), mem_ofForms, plainForms,
    upTo_mounted hmount, belowMount?_append_escapedPath hmount hpath, percentDecode?_mounted hmount]
  simp only [List.mem_append, List.mem_cons, List.not_mem_nil, or_false, Option.mem_toList,
    Option.some.injEq, eq_comm, or_assoc]

/-- The mount point makes a text longer than the path, whatever follows. -/
theorem ne_append_escapedPath (hmount : IsMount mount) (path : String) (rest : List Char) :
    path.toList ≠ (mount ++ escapedPath path).toList ++ rest := by
  intro hsame
  obtain ⟨tail, htail⟩ := hmount.exists_eq_cons
  have hle := length_le_length_escapedPath path
  have hlength := congrArg List.length hsame
  rw [String.toList_append, htail] at hlength
  simp only [List.length_append, List.length_cons] at hlength
  omega

/-- Without its first slash a mounted path is as long as the path only if nothing else stands before
or after the escaped path. -/
theorem escapedPath_eq_of_withoutSlash (hmount : IsMount mount) (query : Option String)
    (hsame : path = withoutSlash (mounted mount path query)) : escapedPath path = path := by
  obtain ⟨tail, htail⟩ := hmount.exists_eq_cons
  have htext : path.toList =
      tail ++ (escapedPath path).toList ++ (query.elim "" ("?" ++ ·)).toList := by
    have hmounted : (mounted mount path query).toList =
        '/' :: (tail ++ (escapedPath path).toList ++ (query.elim "" ("?" ++ ·)).toList) := by
      rw [mounted, String.toList_append, String.toList_append, htail]
      rfl
    rw [withoutSlash, hmounted] at hsame
    exact (congrArg String.toList hsame).trans String.toList_ofList
  have hle := length_le_length_escapedPath path
  have hlength := congrArg List.length htext
  simp only [List.length_append] at hlength
  have htailNil : tail = [] := List.length_eq_zero_iff.mp (by omega)
  have hqueryNil : (query.elim "" ("?" ++ ·)).toList = [] :=
    List.length_eq_zero_iff.mp (by omega)
  rw [htailNil, hqueryNil, List.nil_append, List.append_nil] at htext
  exact (String.toList_inj.mp htext).symm

theorem percentDecode?_mounted_ne (hmount : IsMount mount) (path : String)
    (query : Option String) :
    percentDecode? (mounted mount path query).toList ≠ some path := by
  intro hsame
  obtain ⟨tail, htail⟩ := hmount.exists_eq_cons
  have hmountBytes : bytes mount.toList ≠ [] := bytes_ne_nil (by simp [htail])
  have hbytes := bytes_of_ofBytes?_eq_some hsame
  rw [mounted, String.toList_append, percentDecodeBytes_mounted hmount, String.toList_append,
    bytes_append] at hbytes
  have hlength := congrArg List.length hbytes
  have hpos := List.length_pos_of_ne_nil hmountBytes
  simp only [List.length_append] at hlength
  omega

/-- The candidates of a mounted path hold the path as it is escaped, and the whole as it reads
unescaped, but the path itself only if it is written without an escape. -/
theorem mem_ofIdentifier_mounted_path [DomainForms] (hmount : IsMount mount)
    (hpath : path.toList.head? = some '/') (query : Option String) :
    let candidates := ofIdentifier (mounted mount path query) mount
    escapedPath path ∈ candidates ∧ mount ++ path ∈ candidates ∧
      (path ∈ candidates ↔ ∀ c ∈ path.toList, isPlain c = true) := by
  intro candidates
  have hescaped : escapedPath path ∈ candidates := by
    rw [mem_ofIdentifier_mounted_iff hmount hpath]
    refine ⟨.inr (.inr (.inr (.inl rfl))), ?_⟩
    intro hempty
    have hhead := head_escapedPath hpath
    rw [hempty] at hhead
    cases hhead
  have hdecoded : mount ++ path ∈ candidates := by
    rw [mem_ofIdentifier_mounted_iff hmount hpath]
    refine ⟨.inr (.inr (.inr (.inr (.inr rfl)))), ?_⟩
    intro hempty
    have hhead := hmount.head
    rw [(String.append_eq_empty_iff.mp hempty).1] at hhead
    cases hhead
  refine ⟨hescaped, hdecoded, ?_⟩
  rw [← escapedPath_eq_self_iff]
  constructor
  · intro hmem
    rw [mem_ofIdentifier_mounted_iff hmount hpath] at hmem
    rcases hmem.1 with hraw | hslash | hmounted | hescapedPath | hdecodedRaw | hwhole
    · refine absurd (congrArg String.toList hraw) ?_
      rw [mounted, String.toList_append]
      exact ne_append_escapedPath hmount path _
    · exact escapedPath_eq_of_withoutSlash hmount query hslash
    · refine absurd (congrArg String.toList hmounted) ?_
      have hne := ne_append_escapedPath hmount path []
      rwa [List.append_nil] at hne
    · exact hescapedPath.symm
    · exact absurd hdecodedRaw (percentDecode?_mounted_ne hmount path query)
    · have hlength := congrArg (·.toList.length) hwhole
      obtain ⟨tail, htail⟩ := hmount.exists_eq_cons
      simp only [String.toList_append, htail, List.length_append, List.length_cons] at hlength
      omega
  · intro hsame
    rwa [hsame] at hescaped

end

/-- A blank and a letter outside ASCII are escaped, so the path is no candidate. -/
theorem mem_ofIdentifier_mounted_path_of_escapes :
    let path := "/ä b/c.ts"
    let candidates := ofIdentifier (mounted "/@fs" path (some "t=1")) "/@fs"
    IsMount "/@fs" ∧ path.toList.head? = some '/' ∧
      mounted "/@fs" path (some "t=1") = "/@fs/%C3%A4%20b/c.ts?t=1" ∧
      "/%C3%A4%20b/c.ts" ∈ candidates ∧ "/@fs/ä b/c.ts" ∈ candidates ∧ path ∉ candidates := by
  intro path candidates
  have hmount : IsMount "/@fs" := ⟨by decide, by decide, by decide⟩
  have hpath : path.toList.head? = some '/' := by decide
  obtain ⟨hescaped, hdecoded, hiff⟩ := mem_ofIdentifier_mounted_path hmount hpath (some "t=1")
  have htext : escapedPath path = "/%C3%A4%20b/c.ts" := by decide +kernel
  have hblank : ¬∀ c ∈ path.toList, isPlain c = true :=
    fun hplain => absurd (hplain ' ' (by decide)) (by decide)
  exact ⟨hmount, hpath, by decide +kernel, htext ▸ hescaped, hdecoded, mt hiff.mp hblank⟩

/-- Not every mounted path has the path itself among its candidates. -/
theorem mounted_path_not_mem :
    ¬∀ (mount path : String) (query : Option String), IsMount mount →
      path.toList.head? = some '/' → path ∈ ofIdentifier (mounted mount path query) mount := by
  intro hall
  have hmem := hall "/@fs" "/my lib/a.ts" none ⟨by decide, by decide, by decide⟩ (by decide)
  revert hmem
  decide +kernel

end CandidateSet

end ErrorOrigin
