import ErrorOrigin.Address.Reader
import ErrorOrigin.Proofs.TextCuts
import Mathlib.Tactic

/-!
# Web addresses

A text that claims to be a web address and can be read at all is read as one: neither the blanks
around it nor its query and fragment reach the scheme and the slashes it starts with.  Its path has
segments, so it starts with a slash, and every reference from it that can be read, the empty one
included, is an address again.
-/

namespace ErrorOrigin

open Text

namespace Text

theorem toNat_of_isUpper {c : Char} (hc : c.isUpper = true) : 0x41 ≤ c.toNat ∧ c.toNat ≤ 0x5A :=
  of_decide_eq_true hc

theorem toNat_of_isLower {c : Char} (hc : c.isLower = true) : 0x61 ≤ c.toNat ∧ c.toNat ≤ 0x7A := by
  obtain ⟨hlow, hhigh⟩ := Bool.and_eq_true_iff.mp hc
  exact ⟨of_decide_eq_true hlow, of_decide_eq_true hhigh⟩

theorem toNat_of_isAlpha {c : Char} (hc : c.isAlpha = true) : 0x40 < c.toNat ∧ c.toNat < 0x7B := by
  rcases Bool.or_eq_true_iff.mp hc with hupper | hlower
  · have hbounds := toNat_of_isUpper hupper
    omega
  · have hbounds := toNat_of_isLower hlower
    omega

theorem isBreak_eq_false_of_isAlpha {c : Char} (hc : c.isAlpha = true) : isBreak c = false := by
  have hlarge := (toNat_of_isAlpha hc).1
  by_contra hbreak
  rw [Bool.not_eq_false] at hbreak
  simp only [isBreak, Bool.or_eq_true, decide_eq_true_eq] at hbreak
  rcases hbreak with (rfl | rfl) | rfl <;> revert hlarge <;> decide

theorem toLower_of_isUpper_eq_false {c : Char} (hc : c.isUpper = false) : c.toLower = c :=
  dif_neg (of_decide_eq_false hc)

theorem isAlpha_toLower_of_isUpper {c : Char} (hc : c.isUpper = true) :
    c.toLower.isAlpha = true := by
  have hall : ∀ n < 0x5B, 0x41 ≤ n → (Char.ofNat n).toLower.isAlpha = true := by decide
  obtain ⟨hlow, hhigh⟩ := toNat_of_isUpper hc
  have hletter := hall c.toNat (by omega) hlow
  rwa [Char.ofNat_toNat] at hletter

theorem isAlpha_of_isAlpha_toLower {c : Char} (hc : c.toLower.isAlpha = true) :
    c.isAlpha = true := by
  cases hupper : c.isUpper with
  | true => exact Bool.or_eq_true_iff.mpr (.inl hupper)
  | false => rwa [toLower_of_isUpper_eq_false hupper] at hc

/-- Only letters have another lower case. -/
theorem eq_of_map_toLower_eq {s t : List Char} (hst : s.map Char.toLower = t)
    (ht : ∀ c ∈ t, c.isAlpha = false) : s = t := by
  have hsame : s.map Char.toLower = s.map id := by
    apply List.map_congr_left
    intro c hc
    have hletter := ht c.toLower (hst ▸ List.mem_map_of_mem hc)
    apply toLower_of_isUpper_eq_false
    rw [← Bool.not_eq_true]
    intro hupper
    rw [isAlpha_toLower_of_isUpper hupper] at hletter
    cases hletter
  rw [← hst, hsame, List.map_id]

/-- A text that starts with characters which are not cut off keeps them. -/
theorem strip_append_of_kept {p : Char → Bool} {s : List Char} (hne : s ≠ [])
    (hs : ∀ c ∈ s, p c = false) (rest : List Char) :
    ∃ kept, strip p p (s ++ rest) = s ++ kept := by
  have hfront : (s ++ rest).dropWhile p = s ++ rest := by
    apply dropWhile_eq_self_of_head
    intro c hc
    rw [List.head?_append_of_ne_nil s hne] at hc
    exact hs c (List.mem_of_mem_head? hc)
  have hback : s.reverse.dropWhile p = s.reverse := by
    apply dropWhile_eq_self_of_head
    intro c hc
    exact hs c (List.mem_reverse.mp (List.mem_of_mem_head? hc))
  rw [strip, hfront, List.reverse_append, List.dropWhile_append, hback]
  split
  · exact ⟨[], by simp⟩
  · exact ⟨(rest.reverse.dropWhile p).reverse, by simp⟩

end Text

namespace Route

theorem place_ne_nil (ofFile : Bool) (done : List String) (piece : List Char) :
    place ofFile done piece ≠ [] := by
  unfold place
  dsimp only
  split
  · split
    · split <;> exact List.cons_ne_nil _ _
    · exact List.cons_ne_nil _ _
    · exact List.cons_ne_nil _ _
  · exact List.cons_ne_nil _ _

/-- The last piece of a path leaves a segment behind, an empty one at least. -/
theorem step_ne_nil (ofFile : Bool) (done : List String) (piece : List Char) :
    step ofFile done piece true ≠ [] := by
  unfold step
  dsimp only
  rw [if_pos rfl]
  split
  · exact List.append_ne_nil_of_right_ne_nil _ (List.cons_ne_nil _ _)
  · exact List.append_ne_nil_of_right_ne_nil _ (List.cons_ne_nil _ _)
  · exact List.append_ne_nil_of_right_ne_nil _ (place_ne_nil _ _ _)

theorem follow_ne_nil {pieces : List (List Char)} (hpieces : pieces ≠ []) (ofFile : Bool)
    (done : List String) : follow ofFile done pieces ≠ [] := by
  induction pieces generalizing done with
  | nil => exact absurd rfl hpieces
  | cons piece rest ih =>
      rw [follow]
      cases rest with
      | nil => exact step_ne_nil ofFile done piece
      | cons next rest => exact ih (List.cons_ne_nil _ _) _

theorem head_write_ofText (s : List Char) : (ofText true s).write.toList.head? = some '/' := by
  rw [ofText, if_neg (by simp), walk]
  obtain ⟨first, rest, hsegments⟩ :=
    List.exists_cons_of_ne_nil
      (follow_ne_nil (List.splitOnP_ne_nil (isSlash true) (afterSlash true s)) false [])
  rw [hsegments]
  simp [write]

end Route

namespace Address

/-! ## Schemes -/

/-- The text starts with a web scheme, its letters in either case, and two slashes. -/
structure StartsWeb (s : List Char) (scheme : String) : Prop where
  isWeb : scheme = "http" ∨ scheme = "https"
  starts : ∃ name rest, s = name ++ "://".toList ++ rest ∧ name.map Char.toLower = scheme.toList

theorem take_map_toLower_iff {s : List Char} {scheme : String} :
    (s.take (scheme ++ "://").length).map Char.toLower = (scheme ++ "://").toList ↔
      ∃ name rest, s = name ++ "://".toList ++ rest ∧ name.map Char.toLower = scheme.toList := by
  rw [String.toList_append]
  constructor
  · intro htake
    obtain ⟨name, mark, hsplit, hname, hmark⟩ := List.map_eq_append_iff.mp htake
    have hmark : mark = "://".toList := eq_of_map_toLower_eq hmark (by simp)
    refine ⟨name, s.drop (scheme ++ "://").length, ?_, hname⟩
    rw [← hmark, ← hsplit, List.take_append_drop]
  · rintro ⟨name, rest, rfl, hname⟩
    have hlength : (scheme ++ "://").length = (name ++ "://".toList).length := by
      have hnameLength := congrArg List.length hname
      rw [List.length_map] at hnameLength
      rw [String.length_append, List.length_append, hnameLength]
      rfl
    rw [hlength, List.take_left, List.map_append, hname]
    rfl

theorem claimsWeb_iff {text : String} :
    claimsWeb text = true ↔ ∃ scheme, StartsWeb text.toList scheme := by
  have hhttp := @take_map_toLower_iff text.toList "http"
  have hhttps := @take_map_toLower_iff text.toList "https"
  rw [claimsWeb, List.any_eq_true]
  simp only [decide_eq_true_eq]
  constructor
  · rintro ⟨start, hstart, htake⟩
    simp only [List.mem_cons, List.not_mem_nil, or_false] at hstart
    rcases hstart with rfl | rfl
    · exact ⟨"http", .inl rfl, hhttp.mp htake⟩
    · exact ⟨"https", .inr rfl, hhttps.mp htake⟩
  · rintro ⟨scheme, rfl | rfl, hstarts⟩
    · exact ⟨"http://", by simp, hhttp.mpr hstarts⟩
    · exact ⟨"https://", by simp, hhttps.mpr hstarts⟩

namespace StartsWeb

variable {s : List Char} {scheme : String}

theorem isAlpha_of_mem_scheme (h : StartsWeb s scheme) :
    ∀ c ∈ scheme.toList, c.isAlpha = true := by
  rcases h.isWeb with rfl | rfl <;> simp

theorem isAlpha_of_mem (h : StartsWeb s scheme) {name : List Char}
    (hname : name.map Char.toLower = scheme.toList) : ∀ c ∈ name, c.isAlpha = true := by
  intro c hc
  exact isAlpha_of_isAlpha_toLower
    (h.isAlpha_of_mem_scheme c.toLower (hname ▸ List.mem_map_of_mem hc))

theorem name_ne_nil (h : StartsWeb s scheme) {name : List Char}
    (hname : name.map Char.toLower = scheme.toList) : name ≠ [] := by
  rintro rfl
  rcases h.isWeb with rfl | rfl <;> revert hname <;> decide

theorem start_chars (h : StartsWeb s scheme) {name : List Char}
    (hname : name.map Char.toLower = scheme.toList) :
    ∀ c ∈ name ++ "://".toList, c.isAlpha = true ∨ c = ':' ∨ c = '/' := by
  intro c hc
  rcases List.mem_append.mp hc with hname' | hmark
  · exact .inl (h.isAlpha_of_mem hname c hname')
  · have hmark : c = ':' ∨ c = '/' := by simpa using hmark
    exact .inr hmark

theorem trimmed (h : StartsWeb s scheme) : StartsWeb (Address.trimmed s) scheme := by
  obtain ⟨name, rest, rfl, hname⟩ := h.starts
  have hedge : ∀ c ∈ name ++ "://".toList, decide (c.toNat ≤ 0x20) = false := by
    intro c hc
    rw [decide_eq_false_iff_not, Nat.not_le]
    rcases h.start_chars hname c hc with hletter | rfl | rfl
    · exact lt_trans (by decide) (toNat_of_isAlpha hletter).1
    · decide
    · decide
  have hne : name ++ "://".toList ≠ [] := List.append_ne_nil_of_left_ne_nil (h.name_ne_nil hname) _
  obtain ⟨kept, hkept⟩ := strip_append_of_kept hne hedge rest
  exact ⟨h.isWeb, name, kept, hkept, hname⟩

/-- The first part of a cut at another character starts with the scheme as well. -/
theorem cut (h : StartsWeb s scheme) {sep : Char} (hletter : sep.isAlpha = false)
    (hcolon : sep ≠ ':') (hslash : sep ≠ '/') {before after : List Char}
    (hcut : cut? sep s = some (before, after)) : StartsWeb before scheme := by
  obtain ⟨name, rest, rfl, hname⟩ := h.starts
  have hsep : sep ∉ name ++ "://".toList := by
    intro hmem
    rcases h.start_chars hname sep hmem with halpha | hsame | hsame
    · rw [hletter] at halpha
      cases halpha
    · exact hcolon hsame
    · exact hslash hsame
  rw [cut?_append_of_not_mem hsep] at hcut
  obtain ⟨parts, -, hparts⟩ := Option.map_eq_some_iff.mp hcut
  exact ⟨h.isWeb, name, parts.1, (congrArg Prod.fst hparts).symm, hname⟩

/-- What precedes the query and the fragment starts with the scheme as well. -/
theorem main_ofText (h : StartsWeb s scheme) : StartsWeb (Parts.ofText s).main scheme := by
  have hcut {s : List Char} (h : StartsWeb s scheme) {sep : Char} (hsep : sep = '#' ∨ sep = '?') :
      StartsWeb ((cut? sep s).elim (s, none) fun parts => (parts.1, some parts.2)).1 scheme := by
    cases hcut : cut? sep s with
    | none => exact h
    | some parts => rcases hsep with rfl | rfl <;> exact h.cut rfl (by decide) (by decide) hcut
  exact hcut (hcut h (.inl rfl)) (.inr rfl)

theorem scheme?_eq (h : StartsWeb s scheme) : ∃ rest, scheme? s = some (scheme, rest) := by
  obtain ⟨name, rest, rfl, hname⟩ := h.starts
  have hletters := h.isAlpha_of_mem hname
  have hcolon : ':' ∉ name := by
    intro hmem
    have hletter := hletters ':' hmem
    revert hletter
    decide
  have hjoined : joined name = name := by
    rw [joined, List.filter_eq_self]
    intro c hc
    rw [isBreak_eq_false_of_isAlpha (hletters c hc)]
    rfl
  have hhead : name.head?.any Char.isAlpha = true := by
    obtain ⟨c, tail, rfl⟩ := List.exists_cons_of_ne_nil (h.name_ne_nil hname)
    exact hletters c (List.mem_cons_self)
  refine ⟨"//".toList ++ rest, ?_⟩
  have hsplit : name ++ "://".toList ++ rest = name ++ ':' :: ("//".toList ++ rest) := by
    simp
  have hwritten : String.ofList (name.map Char.toLower) = scheme := by
    rw [hname, String.ofList_toList]
  have hletters : ∀ c ∈ name, c.isAlphanum = true := by
    intro c hc
    rw [Char.isAlphanum, hletters c hc, Bool.true_or]
  rw [scheme?, hsplit, cut?_append_cons _ hcolon]
  simp only [Option.bind_eq_bind, Option.bind_some, hjoined, hwritten]
  rw [if_pos]
  · rfl
  · refine ⟨hhead, ?_⟩
    rw [List.all_eq_true]
    intro c hc
    rw [hletters c hc, Bool.true_or]

theorem ne_file (h : StartsWeb s scheme) : scheme ≠ "file" := by
  rcases h.isWeb with rfl | rfl <;> decide

theorem isSpecial (h : StartsWeb s scheme) : Address.isSpecial scheme = true := by
  rcases h.isWeb with rfl | rfl <;> decide

/-- On its own a web address is read as an authority, whatever slashes follow the scheme. -/
theorem read?_eq [DomainForms] {text : String} (h : StartsWeb text.toList scheme) :
    ∃ parts rest, read? text = ofAuthority? scheme parts rest := by
  obtain ⟨rest, hscheme⟩ := h.trimmed.main_ofText.scheme?_eq
  rw [read?, readFrom?, hscheme]
  simp only [if_neg h.ne_file, if_pos h.isSpecial]
  exact ⟨_, _, rfl⟩

end StartsWeb

/-! ## Pages -/

theorem of_ofAuthority?_eq_some [DomainForms] {scheme : String} {parts : Parts} {s : List Char}
    {a : Address} (ha : ofAuthority? scheme parts s = some a) :
    a.scheme = scheme ∧ a.host.isSome = true ∧
      ∃ path, a.route = .ofText (isSpecial scheme) path := by
  unfold ofAuthority? at ha
  obtain ⟨⟨username, password, authority⟩, -, ha⟩ := Option.bind_eq_some_iff.mp ha
  simp only at ha
  split at ha
  all_goals
    obtain ⟨host, -, ha⟩ := Option.bind_eq_some_iff.mp ha
    split at ha
    · cases ha
    · obtain ⟨⟨portNumber, path⟩, -, ha⟩ := Option.bind_eq_some_iff.mp ha
      cases ha
      exact ⟨rfl, rfl, _, rfl⟩

/-- The text starts with a web scheme and is read as this address, which has a host. -/
structure IsPage [DomainForms] (text : String) (a : Address) : Prop where
  starts : ∃ scheme, StartsWeb text.toList scheme
  read : read? text = some a
  host : a.host.isSome = true

theorem StartsWeb.isPage [DomainForms] {text scheme : String} {a : Address}
    (hstarts : StartsWeb text.toList scheme) (hread : read? text = some a) : IsPage text a := by
  obtain ⟨parts, rest, hauthority⟩ := hstarts.read?_eq
  obtain ⟨-, hhost, -⟩ := of_ofAuthority?_eq_some (hauthority ▸ hread)
  exact ⟨⟨scheme, hstarts⟩, hread, hhost⟩

theorem web?_eq_some_iff [DomainForms] {text : String} {a : Address}
    (htext : claimsWeb text = true) : web? text = some a ↔ IsPage text a := by
  obtain ⟨scheme, hstarts⟩ := claimsWeb_iff.mp htext
  rw [web?, Option.filter_eq_some_iff]
  constructor
  · rintro ⟨hread, hkept⟩
    rw [Bool.and_eq_true] at hkept
    exact ⟨⟨scheme, hstarts⟩, hread, hkept.2⟩
  · rintro ⟨-, hread, hhost⟩
    obtain ⟨parts, rest, hauthority⟩ := hstarts.read?_eq
    obtain ⟨rfl, -, -⟩ := of_ofAuthority?_eq_some (hauthority ▸ hread)
    have hweb : a.scheme = "http" ∨ a.scheme = "https" := hstarts.isWeb
    refine ⟨hread, ?_⟩
    rcases hweb with hweb | hweb <;> simp [hweb, hhost]

theorem IsPage.head_path [DomainForms] {text : String} {a : Address} (ha : IsPage text a) :
    a.path.toList.head? = some '/' := by
  obtain ⟨scheme, hstarts⟩ := ha.starts
  obtain ⟨parts, rest, hauthority⟩ := hstarts.read?_eq
  obtain ⟨-, -, path, hroute⟩ := of_ofAuthority?_eq_some (hauthority ▸ ha.read)
  rw [Address.path, hroute, hstarts.isSpecial]
  exact Route.head_write_ofText path

theorem readFrom?_nil [DomainForms] {base : Address} {list : List String}
    (hbase : base.route = .segments list) :
    (readFrom? (some base) []).isSome = true := by
  have hread : readFrom? (some base) [] = refer? base ⟨[], none, none⟩ := rfl
  rw [hread, refer?, hbase]
  rfl

theorem write_ne_empty (a : Address) : a.write ≠ "" := by
  simp [write, writeToPath]

/-- Every reference from a page names something, the empty one too. -/
theorem IsPage.resolve_ne_empty [DomainForms] {text : String} {a : Address} (ha : IsPage text a)
    (reference : String) : a.resolve reference ≠ "" := by
  obtain ⟨scheme, hstarts⟩ := ha.starts
  obtain ⟨parts, rest, hauthority⟩ := hstarts.read?_eq
  obtain ⟨-, -, path, hroute⟩ := of_ofAuthority?_eq_some (hauthority ▸ ha.read)
  rw [resolve]
  cases hread : readFrom? (some a) reference.toList with
  | some target => exact write_ne_empty target
  | none =>
      rintro rfl
      have hempty := readFrom?_nil hroute
      rw [← String.toList_empty, hread] at hempty
      cases hempty

end Address

end ErrorOrigin
