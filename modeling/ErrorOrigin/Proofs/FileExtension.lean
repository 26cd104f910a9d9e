import ErrorOrigin.Highlight.Language
import ErrorOrigin.Proofs.TextCuts
import Mathlib.Tactic

/-!
# The extension that tells a language

Three cuts lead from a path to an extension: at the first mark, at the last separator, at the last
point.  Each is made on what the cut before it left, so points of directories and separators of
queries do not count.  A query may be added and the directories may be exchanged without changing
the language, and of a name only what follows its last point matters, in either case.
-/

namespace ErrorOrigin.Language

open Text

def extensions : Language → List String
  | typeScript => ["ts", "mts", "cts"]
  | tsx => ["tsx"]
  | javaScript => ["js", "mjs", "cjs"]
  | jsx => ["jsx"]
  | vue => ["vue"]
  | svelte => ["svelte"]
  | astro => ["astro"]
  | css => ["css"]
  | scss => ["scss"]
  | less => ["less"]
  | json => ["json"]
  | html => ["html", "htm"]
  | markdown => ["md"]
  | mdx => ["mdx"]
  | diff => ["diff", "patch"]
  | text => []

/-- An extension that no language claims is one of plain text. -/
def Claims (l : Language) (extension : String) : Prop :=
  extension ∈ l.extensions ∨ l = text ∧ ∀ other : Language, extension ∉ other.extensions

def lowerCase (s : String) : String :=
  String.ofList (s.toList.map Char.toLower)

/-- No query and no fragment begins in the text. -/
def IsUnmarked (s : String) : Prop :=
  '?' ∉ s.toList ∧ '#' ∉ s.toList

instance (s : String) : Decidable (IsUnmarked s) :=
  inferInstanceAs (Decidable (_ ∧ _))

def IsFileName (s : String) : Prop :=
  IsUnmarked s ∧ '/' ∉ s.toList ∧ '\\' ∉ s.toList

instance (s : String) : Decidable (IsFileName s) :=
  inferInstanceAs (Decidable (_ ∧ _))

/-! ## Extensions -/

theorem ofExtension_of_mem {l : Language} {extension : String}
    (hmem : extension ∈ l.extensions) : ofExtension extension = l := by
  cases l <;> simp only [extensions, List.mem_cons, List.not_mem_nil, or_false] at hmem
  case typeScript => rcases hmem with rfl | rfl | rfl <;> rfl
  case javaScript => rcases hmem with rfl | rfl | rfl <;> rfl
  case html => rcases hmem with rfl | rfl <;> rfl
  case diff => rcases hmem with rfl | rfl <;> rfl
  all_goals
    subst hmem
    rfl

theorem mem_extensions_ofExtension {extension : String}
    (hne : ofExtension extension ≠ text) : extension ∈ (ofExtension extension).extensions := by
  unfold ofExtension at hne ⊢
  split at hne
  all_goals first
    | exact absurd rfl hne
    | simp [extensions]

theorem ofExtension_eq_iff {l : Language} {extension : String} :
    ofExtension extension = l ↔ l.Claims extension := by
  constructor
  · rintro rfl
    by_cases htext : ofExtension extension = text
    · refine .inr ⟨htext, ?_⟩
      intro other hmem
      obtain rfl : text = other := htext.symm.trans (ofExtension_of_mem hmem)
      cases hmem
    · exact .inl (mem_extensions_ofExtension htext)
  · rintro (hmem | ⟨rfl, hnone⟩)
    · exact ofExtension_of_mem hmem
    · by_contra hne
      exact hnone _ (mem_extensions_ofExtension hne)

theorem forall_ne_and_ne {a b : Char} {s : List Char} (ha : a ∉ s) (hb : b ∉ s) :
    ∀ c ∈ s, (c ≠ a && c ≠ b) = true := by
  intro c hc
  have hne : c ≠ a := fun heq => ha (heq ▸ hc)
  have hne' : c ≠ b := fun heq => hb (heq ▸ hc)
  simp [hne, hne']

theorem pathPart_append_mark {mark : Char} (hmark : mark = '?' ∨ mark = '#') (p x : List Char) :
    pathPart (p ++ mark :: x) = pathPart p := by
  have hstop : (mark ≠ '?' && mark ≠ '#') = false := by
    rcases hmark with rfl | rfl <;> rfl
  induction p with
  | nil => rw [List.nil_append, pathPart, List.takeWhile_cons, hstop]; rfl
  | cons c p ih =>
      unfold pathPart at ih ⊢
      rw [List.cons_append, List.takeWhile_cons, List.takeWhile_cons, ih]

theorem pathPart_of_isUnmarked {s : String} (hs : IsUnmarked s) :
    pathPart s.toList = s.toList := by
  rw [pathPart, List.takeWhile_eq_self_iff]
  exact forall_ne_and_ne hs.1 hs.2

theorem fileName_append_separator {separator : Char} (hsep : separator = '/' ∨ separator = '\\')
    (d : List Char) {f : List Char} (hslash : '/' ∉ f) (hbackslash : '\\' ∉ f) :
    fileName (d ++ separator :: f) = f := by
  have hkept := forall_ne_and_ne (mt List.mem_reverse.mp hslash) (mt List.mem_reverse.mp hbackslash)
  have hstop : (separator ≠ '/' && separator ≠ '\\') = false := by
    rcases hsep with rfl | rfl <;> rfl
  rw [fileName, List.reverse_append, List.reverse_cons, List.append_assoc,
    List.takeWhile_append_of_pos hkept, List.singleton_append, List.takeWhile_cons, hstop]
  simp

theorem fileName_of_isFileName {s : String} (hs : IsFileName s) :
    fileName s.toList = s.toList := by
  have hkept := forall_ne_and_ne (mt List.mem_reverse.mp hs.2.1) (mt List.mem_reverse.mp hs.2.2)
  rw [fileName, List.takeWhile_eq_self_iff.mpr hkept, List.reverse_reverse]

theorem IsUnmarked.append {s s' : String} (hs : IsUnmarked s) (hs' : IsUnmarked s') :
    IsUnmarked (s ++ s') := by
  simp only [IsUnmarked, String.toList_append, List.mem_append, not_or]
  exact ⟨⟨hs.1, hs'.1⟩, hs.2, hs'.2⟩

theorem IsFileName.append {s s' : String} (hs : IsFileName s) (hs' : IsFileName s') :
    IsFileName (s ++ s') := by
  refine ⟨hs.1.append hs'.1, ?_⟩
  simp only [String.toList_append, List.mem_append, not_or]
  exact ⟨⟨hs.2.1, hs'.2.1⟩, hs.2.2, hs'.2.2⟩

/-! ## The language of a path -/

theorem ofPath_of_isFileName {s : String} (hs : IsFileName s) :
    ofPath s = ofFileName s.toList := by
  rw [ofPath, pathPart_of_isUnmarked hs.1, fileName_of_isFileName hs]

theorem ofPath_append_mark {mark : String} (hmark : mark = "?" ∨ mark = "#") (p x : String) :
    ofPath (p ++ mark ++ x) = ofPath p := by
  obtain ⟨c, hc, hlist⟩ : ∃ c, (c = '?' ∨ c = '#') ∧ mark.toList = [c] := by
    rcases hmark with rfl | rfl
    · exact ⟨'?', .inl rfl, rfl⟩
    · exact ⟨'#', .inr rfl, rfl⟩
  rw [ofPath, String.toList_append, String.toList_append, hlist, List.append_assoc,
    List.singleton_append, pathPart_append_mark hc]
  rfl

theorem ofPath_append_separator {separator : String}
    (hsep : separator = "/" ∨ separator = "\\") {d f : String} (hd : IsUnmarked d)
    (hf : IsFileName f) : ofPath (d ++ separator ++ f) = ofPath f := by
  obtain ⟨c, hc, hlist⟩ : ∃ c, (c = '/' ∨ c = '\\') ∧ separator.toList = [c] := by
    rcases hsep with rfl | rfl
    · exact ⟨'/', .inl rfl, rfl⟩
    · exact ⟨'\\', .inr rfl, rfl⟩
  have hseparator : IsUnmarked separator := by
    rcases hsep with rfl | rfl <;> decide
  rw [ofPath_of_isFileName hf, ofPath,
    pathPart_of_isUnmarked ((hd.append hseparator).append hf.1), String.toList_append,
    String.toList_append, hlist, List.append_assoc, List.singleton_append,
    fileName_append_separator hc _ hf.2.1 hf.2.2]

theorem ofPath_append_point {stem extension : String} (hstem : IsFileName stem)
    (hne : stem ≠ "") (hextension : IsFileName extension) (hpoint : '.' ∉ extension.toList) :
    ofPath (stem ++ "." ++ extension) = ofExtension (lowerCase extension) := by
  have hname : IsFileName (stem ++ "." ++ extension) :=
    (hstem.append (by decide : IsFileName ".")).append hextension
  have hlist : (stem ++ "." ++ extension).toList = stem.toList ++ '.' :: extension.toList := by
    simp
  have hstem' : stem.toList ≠ [] := by
    simpa using hne
  rw [ofPath_of_isFileName hname, hlist, ofFileName, cutLast?_append_cons _ hpoint]
  simp only [if_neg hstem']
  rfl

theorem ofPath_of_no_point {name : String} (hname : IsFileName name)
    (hpoint : '.' ∉ name.toList) : ofPath name = text := by
  have hcut : cutLast? '.' name.toList = none := by
    cases hcut : cutLast? '.' name.toList with
    | none => rfl
    | some parts =>
        have heq : name.toList = parts.1 ++ '.' :: parts.2 := eq_of_cutLast?_eq_some hcut
        rw [heq] at hpoint
        simp at hpoint
  rw [ofPath_of_isFileName hname, ofFileName, hcut]

theorem ofPath_of_leading_point {rest : String} (hrest : IsFileName rest)
    (hpoint : '.' ∉ rest.toList) : ofPath ("." ++ rest) = text := by
  have hname : IsFileName ("." ++ rest) :=
    (by decide : IsFileName ".").append hrest
  have hlist : ("." ++ rest).toList = [] ++ '.' :: rest.toList := by
    simp
  rw [ofPath_of_isFileName hname, hlist, ofFileName, cutLast?_append_cons _ hpoint]
  simp

/-- Of a path only the extension of its last part counts, whatever query or fragment follows and
whatever directories come before. -/
theorem ofPath_extension :
    (∀ p x : String, ofPath (p ++ "?" ++ x) = ofPath p ∧ ofPath (p ++ "#" ++ x) = ofPath p) ∧
    (∀ d f : String, IsUnmarked d → IsFileName f →
      ofPath (d ++ "/" ++ f) = ofPath f ∧ ofPath (d ++ "\\" ++ f) = ofPath f) ∧
    (∀ stem extension : String, IsFileName stem → stem ≠ "" → IsFileName extension →
      '.' ∉ extension.toList →
      (∀ l : Language, ofPath (stem ++ "." ++ extension) = l ↔ l.Claims (lowerCase extension)) ∧
      ∀ stem' extension' : String, IsFileName stem' → stem' ≠ "" → IsFileName extension' →
        '.' ∉ extension'.toList → lowerCase extension' = lowerCase extension →
        ofPath (stem' ++ "." ++ extension') = ofPath (stem ++ "." ++ extension)) ∧
    (∀ name : String, IsFileName name → '.' ∉ name.toList → ofPath name = text) ∧
    ∀ rest : String, IsFileName rest → '.' ∉ rest.toList → ofPath ("." ++ rest) = text := by
  refine ⟨?_, ?_, ?_, fun name => ofPath_of_no_point, fun rest => ofPath_of_leading_point⟩
  · intro p x
    exact ⟨ofPath_append_mark (.inl rfl) p x, ofPath_append_mark (.inr rfl) p x⟩
  · intro d f hd hf
    exact ⟨ofPath_append_separator (.inl rfl) hd hf, ofPath_append_separator (.inr rfl) hd hf⟩
  · intro stem extension hstem hne hextension hpoint
    have hlanguage := ofPath_append_point hstem hne hextension hpoint
    refine ⟨fun l => ?_, ?_⟩
    · rw [hlanguage]
      exact ofExtension_eq_iff
    · intro stem' extension' hstem' hne' hextension' hpoint' hcase
      rw [hlanguage, ofPath_append_point hstem' hne' hextension' hpoint', hcase]

/-- A point of a directory, a separator of a query and capital letters at once. -/
theorem ofPath_extension_of_crowded_path :
    ofPath "C:\\work\\v1.2\\App.test.VUE?from=/a.css#L3" = vue ∧
      ofPath "/home/.bashrc" = text ∧ ofPath "/src.d/Makefile" = text := by
  obtain ⟨hmark, hdirectory, hname, hnone, hleading⟩ := ofPath_extension
  refine ⟨?_, ?_, ?_⟩
  · have hquery : ofPath ("C:\\work\\v1.2\\App.test.VUE" ++ "?" ++ "from=/a.css#L3") =
        ofPath ("C:\\work\\v1.2" ++ "\\" ++ ("App.test" ++ "." ++ "VUE")) :=
      (hmark "C:\\work\\v1.2\\App.test.VUE" "from=/a.css#L3").1
    have hlast := (hdirectory "C:\\work\\v1.2" ("App.test" ++ "." ++ "VUE") (by decide)
      (by decide)).2
    have hlanguage := (hname "App.test" "VUE" (by decide) (by decide) (by decide)
      (by decide)).1 vue
    exact hquery.trans (hlast.trans (hlanguage.mpr (.inl (by decide))))
  · exact (hdirectory "/home" ("." ++ "bashrc") (by decide) (by decide)).1.trans
      (hleading "bashrc" (by decide) (by decide))
  · exact (hdirectory "/src.d" "Makefile" (by decide) (by decide)).1.trans
      (hnone "Makefile" (by decide) (by decide))

end ErrorOrigin.Language
