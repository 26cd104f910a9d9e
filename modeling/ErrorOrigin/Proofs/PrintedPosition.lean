import ErrorOrigin.Framework
import ErrorOrigin.Proofs.FramePosition
import ErrorOrigin.Proofs.LegibleFrames
import Mathlib.Tactic

/-!
# Positions that compilers print

A compiler tells the position of an error in the midst of a text that may say anything.  What is
found is the first parenthesis with coordinates and the first file, or the first file that has
coordinates behind it, so a position is read as it was printed if nothing in front of it looks like
one.  Nothing that follows has a say, and nothing is found that is not in the message.
-/

namespace ErrorOrigin

namespace Text

theorem words_append_blank {c : Char} (hc : isBlank c = true) (s t : List Char) :
    words (s ++ c :: t) = words s ++ words t := by
  rw [words, List.splitOnP_append_cons s t hc, List.filter_append]
  rfl

theorem words_of_no_blank {s : List Char} (hne : s ≠ []) (hs : ∀ c ∈ s, isBlank c = false) :
    words s = [s] := by
  rw [words, List.splitOnP_eq_singleton hs]
  simp [hne]

theorem isInfix_of_splitOnP_eq_cons {p : Char → Bool} {s first : List Char}
    {others : List (List Char)} (hsplit : s.splitOnP p = first :: others) :
    first <+: s ∧ ∀ piece ∈ others, piece <:+: s := by
  induction s generalizing first others with
  | nil =>
      obtain ⟨rfl, rfl⟩ : [] = first ∧ [] = others := by simpa using hsplit
      exact ⟨List.prefix_refl [], by simp⟩
  | cons c rest ih =>
      obtain ⟨front, back, hrest⟩ := List.exists_cons_of_ne_nil (List.splitOnP_ne_nil p rest)
      obtain ⟨hfront, hback⟩ := ih hrest
      rw [List.splitOnP_cons_eq_if_modifyHead, hrest] at hsplit
      split at hsplit
      · obtain ⟨rfl, rfl⟩ := List.cons.inj hsplit
        refine ⟨List.nil_prefix, fun piece hpiece => ?_⟩
        rcases List.mem_cons.mp hpiece with rfl | hpiece
        · exact List.infix_cons hfront.isInfix
        · exact List.infix_cons (hback piece hpiece)
      · obtain ⟨rfl, rfl⟩ := List.cons.inj hsplit
        refine ⟨List.cons_prefix_cons.mpr ⟨rfl, hfront⟩, fun piece hpiece => ?_⟩
        exact List.infix_cons (hback piece hpiece)

theorem isInfix_of_mem_words {s word : List Char} (hword : word ∈ words s) : word <:+: s := by
  have hpiece : word ∈ s.splitOnP isBlank := List.mem_of_mem_filter hword
  obtain ⟨first, others, hsplit⟩ := List.exists_cons_of_ne_nil (List.splitOnP_ne_nil isBlank s)
  obtain ⟨hfirst, hothers⟩ := isInfix_of_splitOnP_eq_cons hsplit
  rw [hsplit] at hpiece
  rcases List.mem_cons.mp hpiece with rfl | hpiece
  · exact hfirst.isInfix
  · exact hothers word hpiece

theorem readPositive?_eq_some_iff {limit n : Nat} {s : List Char} :
    readPositive? limit s = some n ↔
      isNumeral s = true ∧ Nat.ofDigitChars 10 s 0 = n ∧ 1 ≤ n ∧ n ≤ limit := by
  rw [readPositive?, readNumeral?]
  by_cases hs : isNumeral s = true
  · rw [if_pos hs, Option.filter_eq_some_iff, Option.filter_eq_some_iff, Option.some.injEq,
      decide_eq_true_eq, decide_eq_true_eq, and_assoc, and_comm (a := n ≤ limit)]
    simp [hs, Nat.succ_le_iff]
  · simp [hs]

theorem toList_toString_nat (n : Nat) : (toString n).toList = Nat.toDigits 10 n := by
  simp

theorem readPositive?_toString {limit n : Nat} (hpos : 1 ≤ n) (hlimit : n ≤ limit) :
    readPositive? limit (toString n).toList = some n := by
  rw [readPositive?_eq_some_iff, toList_toString_nat]
  exact ⟨isNumeral_toDigits n, Nat.ofDigitChars_toDigits (by decide) (by decide), hpos, hlimit⟩

theorem isDigit_of_mem_toString {n : Nat} {c : Char} (hc : c ∈ (toString n).toList) :
    c.isDigit = true := by
  rw [toList_toString_nat] at hc
  exact Nat.isDigit_of_mem_toDigits (by decide) (by decide) hc

end Text

namespace Framework

open Text

/-! ## Tokens -/

/-- What may stand in front of a word and is no part of it. -/
def opens (c : Char) : Bool := "\"'`(".toList.contains c

/-- What may stand behind a word and is no part of it. -/
def closes (c : Char) : Bool := "\"'`),;:.".toList.contains c

theorem tokens_eq (message : List Char) :
    tokens message = ((words message).map (strip opens closes)).filter (· ≠ []) :=
  rfl

theorem tokens_append_blank {c : Char} (hc : isBlank c = true) (s t : List Char) :
    tokens (s ++ c :: t) = tokens s ++ tokens t := by
  rw [tokens_eq, words_append_blank hc, List.map_append, List.filter_append]
  rfl

/-- A text without blanks that begins and ends as a word does is a word by itself. -/
theorem tokens_of_word {word : List Char} (hne : word ≠ [])
    (hword : ∀ c ∈ word, isBlank c = false) (hhead : ∀ c ∈ word.head?, opens c = false)
    (hlast : ∀ c ∈ word.getLast?, closes c = false) : tokens word = [word] := by
  rw [tokens_eq, words_of_no_blank hne hword, List.map_singleton, strip_eq_self hhead hlast]
  simp [hne]

theorem opens_eq_false_iff {c : Char} : opens c = false ↔ c ∉ "\"'`(".toList := by
  simp [opens]

theorem closes_of_isDigit {c : Char} (hc : c.isDigit = true) : closes c = false := by
  by_contra hcloses
  rw [Bool.not_eq_false, closes, List.contains_iff_mem] at hcloses
  have hnone : "\"'`),;:.".toList.any Char.isDigit = false := by decide
  exact List.any_eq_false.mp hnone c hcloses hc

theorem exists_word_of_mem_tokens {message token : List Char} (htoken : token ∈ tokens message) :
    ∃ word ∈ words message, strip opens closes word = token :=
  List.mem_map.mp (List.mem_of_mem_filter htoken)

theorem isInfix_of_mem_tokens {message token : List Char} (htoken : token ∈ tokens message) :
    token <:+: message := by
  obtain ⟨word, hword, rfl⟩ := exists_word_of_mem_tokens htoken
  exact (strip_isInfix opens closes word).trans (isInfix_of_mem_words hword)

/-! ## Files of a framework -/

def extension : Framework → String
  | vue => ".vue"
  | svelte => ".svelte"

variable {f : Framework}

def Owns (f : Framework) (file : List Char) : Prop :=
  ∃ name, name ≠ [] ∧ file = name ++ f.extension.toList

theorem hasExtension_iff_owns {file : List Char} :
    hasExtension f.extension.toList file = true ↔ f.Owns file := by
  rw [hasExtension, Bool.and_eq_true, decide_eq_true_eq, List.isSuffixOf_iff_suffix]
  constructor
  · rintro ⟨hlength, name, rfl⟩
    refine ⟨name, ?_, rfl⟩
    rintro rfl
    exact absurd hlength (lt_irrefl _)
  · rintro ⟨name, hne, rfl⟩
    refine ⟨?_, List.suffix_append name f.extension.toList⟩
    rw [List.length_append]
    have hpos := List.length_pos_iff.mpr hne
    omega

instance (file : List Char) : Decidable (f.Owns file) :=
  decidable_of_iff _ hasExtension_iff_owns

theorem Owns.getLast? {file : List Char} (hfile : f.Owns file) : file.getLast? = some 'e' := by
  obtain ⟨name, -, rfl⟩ := hfile
  have hlast : f.extension.toList.getLast? = some 'e' := by
    cases f <;> decide
  rw [List.getLast?_append, hlast, Option.some_or]

theorem Owns.ne_nil {file : List Char} (hfile : f.Owns file) : file ≠ [] := by
  rintro rfl
  exact absurd hfile.getLast? (by decide)

/-- The token is a file of the framework with two numerals behind it. -/
def Locates (f : Framework) (token : List Char) : Prop :=
  ∃ file line column, token = (file ++ ':' :: line) ++ ':' :: column ∧ f.Owns file ∧
    isNumeral line = true ∧ isNumeral column = true

theorem locates_iff_cutLast? {token : List Char} :
    f.Locates token ↔
      ((cutLast? ':' token).any fun (front, column) => isNumeral column &&
        (cutLast? ':' front).any fun (file, line) =>
          isNumeral line && hasExtension f.extension.toList file) = true := by
  simp only [Option.any_eq_true, Bool.and_eq_true, Prod.exists, hasExtension_iff_owns]
  constructor
  · rintro ⟨file, line, column, rfl, hfile, hline, hcolumn⟩
    exact ⟨_, column, cutLast?_append_cons _ (Stack.not_mem_of_isNumeral hcolumn), hcolumn,
      file, line, cutLast?_append_cons _ (Stack.not_mem_of_isNumeral hline), hline, hfile⟩
  · rintro ⟨front, column, hfront, hcolumn, file, line, hback, hline, hfile⟩
    rw [eq_of_cutLast?_eq_some hfront, eq_of_cutLast?_eq_some hback]
    exact ⟨file, line, column, rfl, hfile, hline, hcolumn⟩

instance (token : List Char) : Decidable (f.Locates token) :=
  decidable_of_iff _ locates_iff_cutLast?.symm

/-- The line and the column of a position as a compiler prints them. -/
def coordinateText (p : Position) : List Char :=
  (toString p.line).toList ++ ':' :: (toString p.column).toList

theorem mem_coordinateText {p : Position} {c : Char} (hc : c ∈ coordinateText p) :
    c = ':' ∨ c.isDigit = true := by
  rw [coordinateText, List.mem_append, List.mem_cons] at hc
  rcases hc with hc | rfl | hc
  · exact .inr (isDigit_of_mem_toString hc)
  · exact .inl rfl
  · exact .inr (isDigit_of_mem_toString hc)

theorem not_mem_coordinateText {p : Position} {c : Char} (hcolon : c ≠ ':')
    (hdigit : c.isDigit = false) : c ∉ coordinateText p := by
  intro hc
  rcases mem_coordinateText hc with hsame | hmem
  · exact hcolon hsame
  · rw [hdigit] at hmem
    cases hmem

theorem colon_not_mem_toString (n : Nat) : ':' ∉ (toString n).toList := fun hmem =>
  absurd (isDigit_of_mem_toString hmem) (by decide)

theorem isDigit_of_getLast?_coordinateText {p : Position} {c : Char} (front : List Char)
    (hc : c ∈ (front ++ coordinateText p).getLast?) : c.isDigit = true := by
  have hcolumn : ':' :: (toString p.column).toList = Stack.writeCoordinate p.column := rfl
  rw [coordinateText, hcolumn, ← List.append_assoc] at hc
  exact Stack.isDigit_of_getLast?_writeCoordinate p.column _ c hc

theorem coordinates?_coordinateText {p : Position} (hp : p.IsUsable) :
    coordinates? (coordinateText p) = some (p.line, p.column) := by
  rw [coordinates?, coordinateText, cut?_append_cons _ (colon_not_mem_toString p.line)]
  simp only [Option.bind_eq_bind, Option.bind_some, coordinate?,
    readPositive?_toString hp.one_le_line hp.line_le,
    readPositive?_toString hp.one_le_column hp.column_le]
  rfl

theorem coordinates?_eq_some {s : List Char} {line column : Nat}
    (hread : coordinates? s = some (line, column)) :
    (1 ≤ line ∧ line ≤ Position.greatest) ∧ 1 ≤ column ∧ column ≤ Position.greatest := by
  simp only [coordinates?, coordinate?, Option.bind_eq_bind, Option.bind_eq_some_iff] at hread
  obtain ⟨⟨front, back⟩, -, l, hline, c, hcolumn, hpair⟩ := hread
  cases hpair
  exact ⟨(readPositive?_eq_some_iff.mp hline).2.2, (readPositive?_eq_some_iff.mp hcolumn).2.2⟩

theorem parenthesized?_append_of_not_mem {s : List Char} (hs : '(' ∉ s) (rest : List Char) :
    parenthesized? (s ++ rest) = parenthesized? rest := by
  induction s with
  | nil => rfl
  | cons c s ih =>
      rw [List.mem_cons, not_or] at hs
      rw [List.cons_append, parenthesized?, if_neg (Ne.symm hs.1), ih hs.2]
      rfl

theorem parenthesized?_coordinateText {p : Position} (hp : p.IsUsable) (rest : List Char) :
    parenthesized? ('(' :: (coordinateText p ++ ')' :: rest)) = some (p.line, p.column) := by
  have hclose : ')' ∉ coordinateText p := not_mem_coordinateText (by decide) (by decide)
  rw [parenthesized?, if_pos rfl, cut?_append_cons _ hclose, Option.bind_some,
    coordinates?_coordinateText hp]
  rfl

theorem parenthesized?_eq_some {s : List Char} {line column : Nat}
    (hread : parenthesized? s = some (line, column)) :
    (1 ≤ line ∧ line ≤ Position.greatest) ∧ 1 ≤ column ∧ column ≤ Position.greatest := by
  induction s with
  | nil => cases hread
  | cons c rest ih =>
      rw [parenthesized?, Option.orElse_eq_or, Option.or_eq_some_iff] at hread
      rcases hread with hhere | ⟨-, hrest⟩
      · split at hhere
        · obtain ⟨⟨inner, _⟩, -, hinner⟩ := Option.bind_eq_some_iff.mp hhere
          exact coordinates?_eq_some hinner
        · cases hhere
      · exact ih hrest

theorem located?_coordinateText {file : List Char} (hfile : file ≠ []) {p : Position}
    (hp : p.IsUsable) :
    located? (file ++ ':' :: coordinateText p) = some (file, p.line, p.column) := by
  have hsplit : file ++ ':' :: coordinateText p =
      (file ++ ':' :: (toString p.line).toList) ++ ':' :: (toString p.column).toList := by
    rw [coordinateText]
    simp
  rw [located?, hsplit, cutLast?_append_cons _ (colon_not_mem_toString p.column)]
  simp only [Option.bind_eq_bind, Option.bind_some, coordinate?,
    readPositive?_toString hp.one_le_column hp.column_le,
    cutLast?_append_cons _ (colon_not_mem_toString p.line),
    readPositive?_toString hp.one_le_line hp.line_le, if_neg hfile]
  rfl

theorem located?_eq_some {token file : List Char} {line column : Nat}
    (hread : located? token = some (file, line, column)) :
    (∃ l c, token = (file ++ ':' :: l) ++ ':' :: c ∧ isNumeral l = true ∧ isNumeral c = true) ∧
      (1 ≤ line ∧ line ≤ Position.greatest) ∧ 1 ≤ column ∧ column ≤ Position.greatest := by
  simp only [located?, coordinate?, Option.bind_eq_bind, Option.bind_eq_some_iff] at hread
  obtain ⟨⟨front, c⟩, hfront, column, hcolumn, ⟨file, l⟩, hfile, line, hline, hresult⟩ := hread
  split at hresult
  · cases hresult
  · cases hresult
    obtain ⟨hl, -, hlines⟩ := readPositive?_eq_some_iff.mp hline
    obtain ⟨hc, -, hcolumns⟩ := readPositive?_eq_some_iff.mp hcolumn
    have hfront : token = front ++ ':' :: c := eq_of_cutLast?_eq_some hfront
    have hfile : front = file ++ ':' :: l := eq_of_cutLast?_eq_some hfile
    exact ⟨⟨l, c, by rw [hfront, hfile], hl, hc⟩, hlines, hcolumns⟩

/-! ## Messages -/

/-- A position that a compiler of the framework can print with its file as one word. -/
structure CanPrint (f : Framework) (p : Position) : Prop where
  isUsable : p.IsUsable
  owns : f.Owns p.file.toList
  noBlank : ∀ c ∈ p.file.toList, isBlank c = false
  head : ∀ c ∈ p.file.toList.head?, c ∉ "\"'`(".toList

/-- Nothing in the text looks like what a compiler of the framework prints of a position. -/
def IsSilent (f : Framework) (text : String) : Prop :=
  match f with
  | vue => '(' ∉ text.toList ∧ ∀ word ∈ words text.toList, ¬vue.Owns (strip opens closes word)
  | svelte => ∀ word ∈ words text.toList, ¬svelte.Locates (strip opens closes word)

/-- What a compiler of the framework prints of a position, with other text around it. -/
def message (f : Framework) (before : String) (p : Position) (after : String) : String :=
  let coordinates := toString p.line ++ ":" ++ toString p.column
  match f with
  | vue => "[vue/compiler-sfc] " ++ before ++ " (" ++ coordinates ++ ")\n\n" ++ p.file ++ "\n" ++
      after
  | svelte => before ++ " " ++ p.file ++ ":" ++ coordinates ++ " " ++ after

/-- The conditions in a form that can be computed. -/
theorem canPrint_iff {p : Position} :
    f.CanPrint p ↔ p.IsUsable ∧ f.Owns p.file.toList ∧ p.file.toList.any isBlank = false ∧
      p.file.toList.head?.any opens = false := by
  have hblank : p.file.toList.any isBlank = false ↔ ∀ c ∈ p.file.toList, isBlank c = false := by
    simp [List.any_eq_false]
  have hhead : p.file.toList.head?.any opens = false ↔
      ∀ c ∈ p.file.toList.head?, c ∉ "\"'`(".toList := by
    cases p.file.toList with
    | nil => simp
    | cons c rest => simp [opens]
  rw [hblank, hhead]
  constructor
  · intro hp
    exact ⟨hp.isUsable, hp.owns, hp.noBlank, hp.head⟩
  · intro ⟨husable, howns, hnoBlank, hopens⟩
    exact ⟨husable, howns, hnoBlank, hopens⟩

theorem CanPrint.opens_head {p : Position} (hp : f.CanPrint p) :
    ∀ c ∈ p.file.toList.head?, opens c = false :=
  fun c hc => opens_eq_false_iff.mpr (hp.head c hc)

theorem CanPrint.tokens_file {p : Position} (hp : f.CanPrint p) :
    tokens p.file.toList = [p.file.toList] := by
  have hlast : ∀ c ∈ p.file.toList.getLast?, closes c = false := by
    intro c hc
    rw [hp.owns.getLast?, Option.mem_some_iff] at hc
    subst c
    decide
  exact tokens_of_word hp.owns.ne_nil hp.noBlank hp.opens_head hlast

theorem CanPrint.tokens_located {p : Position} (hp : f.CanPrint p) :
    tokens (p.file.toList ++ ':' :: coordinateText p) =
      [p.file.toList ++ ':' :: coordinateText p] := by
  have hne := hp.owns.ne_nil
  refine tokens_of_word (List.append_ne_nil_of_left_ne_nil hne _) ?_ ?_ ?_
  · intro c hc
    rcases List.mem_append.mp hc with hc | hc
    · exact hp.noBlank c hc
    rcases List.mem_cons.mp hc with rfl | hc
    · decide
    rcases mem_coordinateText hc with rfl | hdigit
    · decide
    · exact Stack.isBlank_of_isDigit hdigit
  · rw [List.head?_append_of_ne_nil _ hne]
    exact hp.opens_head
  · intro c hc
    rw [List.append_cons] at hc
    exact closes_of_isDigit (isDigit_of_getLast?_coordinateText _ hc)

theorem toList_message_vue (before : String) (p : Position) (after : String) :
    (vue.message before p after).toList =
      vueMark ++ ' ' :: (before.toList ++ ' ' :: ('(' :: (coordinateText p ++ [')']) ++
        '\n' :: '\n' :: (p.file.toList ++ '\n' :: after.toList))) := by
  unfold message vueMark coordinateText
  simp

theorem not_owns_of_mem_tokens_coordinateText {p : Position} {token : List Char}
    (htoken : token ∈ tokens ('(' :: (coordinateText p ++ [')']))) : ¬f.Owns token := by
  intro howns
  have hmem : 'e' ∈ token := List.mem_of_getLast? howns.getLast?
  have hchar := (isInfix_of_mem_tokens htoken).subset hmem
  rw [List.mem_cons, List.mem_append, List.mem_singleton] at hchar
  rcases hchar with hsame | hchar | hsame
  · exact absurd hsame (by decide)
  · exact not_mem_coordinateText (by decide) (by decide) hchar
  · exact absurd hsame (by decide)

theorem find?_hasExtension_eq_none {tokens : List (List Char)}
    (htokens : ∀ token ∈ tokens, ¬f.Owns token) :
    tokens.find? (hasExtension f.extension.toList) = none := by
  rw [List.find?_eq_none]
  intro token htoken hfile
  exact htokens token htoken (hasExtension_iff_owns.mp hfile)

theorem vuePosition?_eq_some_iff {message : List Char} {p : Position} :
    vuePosition? message = some p ↔
      vueMark <:+: message ∧ parenthesized? message = some (p.line, p.column) ∧
        (tokens message).find? (hasExtension vue.extension.toList) = some p.file.toList := by
  rw [vuePosition?, ← occurs_iff]
  by_cases hmark : occurs vueMark message = true
  · simp only [hmark, if_true, true_and, Option.bind_eq_bind, Option.bind_eq_some_iff]
    constructor
    · rintro ⟨⟨line, column⟩, hcoordinates, file, hfile, hp⟩
      cases hp
      exact ⟨hcoordinates, by rwa [String.toList_ofList]⟩
    · rintro ⟨hcoordinates, hfile⟩
      refine ⟨_, hcoordinates, _, hfile, ?_⟩
      rw [String.ofList_toList]
      rfl
  · simp [hmark]

theorem position?_message_vue {p : Position} (hp : vue.CanPrint p) {before : String}
    (hbefore : vue.IsSilent before) (after : String) :
    vue.position? (vue.message before p after) = some p := by
  obtain ⟨hparenthesis, hwords⟩ := hbefore
  have hfiles : ∀ token ∈ tokens before.toList, ¬vue.Owns token := by
    intro token htoken
    obtain ⟨word, hword, rfl⟩ := exists_word_of_mem_tokens htoken
    exact hwords word hword
  have hblank : isBlank ' ' = true := by decide
  have hbreak : isBlank '\n' = true := by decide
  rw [position?, vuePosition?_eq_some_iff, toList_message_vue]
  refine ⟨(List.prefix_append _ _).isInfix, ?_, ?_⟩
  · have hfront : '(' ∉ vueMark ++ ' ' :: (before.toList ++ [' ']) := by
      have hmark : '(' ∉ vueMark := by decide
      simp [hmark, hparenthesis]
    have hread := parenthesized?_append_of_not_mem hfront
      ('(' :: (coordinateText p ++ ')' :: '\n' :: '\n' :: (p.file.toList ++ '\n' :: after.toList)))
    rw [parenthesized?_coordinateText hp.isUsable] at hread
    simpa using hread
  · have hmark : (tokens vueMark).find? (hasExtension vue.extension.toList) = none := by decide
    have hnone : (tokens ('(' :: (coordinateText p ++ [')']))).find?
        (hasExtension vue.extension.toList) = none :=
      find?_hasExtension_eq_none fun _ => not_owns_of_mem_tokens_coordinateText
    have hempty (rest : List Char) : tokens ('\n' :: rest) = tokens rest :=
      tokens_append_blank hbreak [] rest
    rw [tokens_append_blank hblank, tokens_append_blank hblank, tokens_append_blank hbreak, hempty,
      tokens_append_blank hbreak, hp.tokens_file]
    simp only [List.find?_append, hmark, find?_hasExtension_eq_none hfiles, hnone,
      Option.none_or, List.find?_singleton, hasExtension_iff_owns.mpr hp.owns, if_true,
      Option.some_or]

def svelteToken? (token : List Char) : Option Position := do
  let (file, line, column) ← located? token
  if hasExtension svelte.extension.toList file then
    pure ⟨String.ofList file, line, column⟩
  else none

theorem sveltePosition?_eq (message : List Char) :
    sveltePosition? message =
      if occurs "svelte".toList (message.map Char.toLower) then
        (tokens message).findSome? svelteToken?
      else none :=
  rfl

theorem svelteToken?_eq_some_iff {token : List Char} {p : Position} :
    svelteToken? token = some p ↔
      located? token = some (p.file.toList, p.line, p.column) ∧ svelte.Owns p.file.toList := by
  simp only [svelteToken?, Option.bind_eq_bind, Option.bind_eq_some_iff,
    Option.ite_none_right_eq_some, hasExtension_iff_owns]
  constructor
  · rintro ⟨⟨file, line, column⟩, hlocated, howns, hp⟩
    cases hp
    rw [String.toList_ofList]
    exact ⟨hlocated, howns⟩
  · rintro ⟨hlocated, howns⟩
    refine ⟨_, hlocated, howns, ?_⟩
    rw [String.ofList_toList]
    rfl

theorem locates_of_svelteToken? {token : List Char} {p : Position}
    (hread : svelteToken? token = some p) : svelte.Locates token := by
  obtain ⟨hlocated, howns⟩ := svelteToken?_eq_some_iff.mp hread
  obtain ⟨⟨line, column, htoken, hline, hcolumn⟩, -⟩ := located?_eq_some hlocated
  exact ⟨_, line, column, htoken, howns, hline, hcolumn⟩

theorem toList_message_svelte (before : String) (p : Position) (after : String) :
    (svelte.message before p after).toList =
      before.toList ++ ' ' ::
        ((p.file.toList ++ ':' :: coordinateText p) ++ ' ' :: after.toList) := by
  unfold message coordinateText
  simp

theorem position?_message_svelte {p : Position} (hp : svelte.CanPrint p) {before : String}
    (hbefore : svelte.IsSilent before) (after : String) :
    svelte.position? (svelte.message before p after) = some p := by
  have hmention : occurs "svelte".toList
      ((svelte.message before p after).toList.map Char.toLower) = true := by
    obtain ⟨name, -, hfile⟩ := hp.owns
    have hword : "svelte".toList <:+: (svelte.message before p after).toList := by
      refine ⟨before.toList ++ ' ' :: (name ++ ['.']),
        ':' :: (coordinateText p ++ ' ' :: after.toList), ?_⟩
      rw [toList_message_svelte, hfile]
      simp [extension]
    rw [occurs_iff]
    exact hword.map Char.toLower
  have hsilent : (tokens before.toList).findSome? svelteToken? = none := by
    rw [List.findSome?_eq_none_iff]
    intro token htoken
    obtain ⟨word, hword, rfl⟩ := exists_word_of_mem_tokens htoken
    rw [Option.eq_none_iff_forall_ne_some]
    intro q hq
    exact hbefore word hword (locates_of_svelteToken? hq)
  have hfound : svelteToken? (p.file.toList ++ ':' :: coordinateText p) = some p :=
    svelteToken?_eq_some_iff.mpr ⟨located?_coordinateText hp.owns.ne_nil hp.isUsable, hp.owns⟩
  have hblank : isBlank ' ' = true := by decide
  rw [position?, sveltePosition?_eq, if_pos hmention, toList_message_svelte,
    tokens_append_blank hblank, tokens_append_blank hblank, hp.tokens_located,
    List.findSome?_append, hsilent, Option.none_or, List.findSome?_append,
    List.findSome?_singleton, hfound, Option.some_or]

/-! ## What is found -/

theorem Owns.isUsable {p : Position} (howns : f.Owns p.file.toList)
    (hline : 1 ≤ p.line ∧ p.line ≤ Position.greatest)
    (hcolumn : 1 ≤ p.column ∧ p.column ≤ Position.greatest) : p.IsUsable where
  file_ne := by
    intro hempty
    exact howns.ne_nil (by rw [hempty]; rfl)
  one_le_line := hline.1
  line_le := hline.2
  one_le_column := hcolumn.1
  column_le := hcolumn.2

theorem isFound_of_vuePosition? {message : List Char} {p : Position}
    (hread : vuePosition? message = some p) :
    p.IsUsable ∧ vue.Owns p.file.toList ∧ p.file.toList <:+: message ∧ vueMark <:+: message := by
  obtain ⟨hmark, hcoordinates, hfile⟩ := vuePosition?_eq_some_iff.mp hread
  obtain ⟨hline, hcolumn⟩ := parenthesized?_eq_some hcoordinates
  have howns : vue.Owns p.file.toList := hasExtension_iff_owns.mp (List.find?_some hfile)
  exact ⟨howns.isUsable hline hcolumn, howns,
    isInfix_of_mem_tokens (List.mem_of_find?_eq_some hfile), hmark⟩

theorem isFound_of_sveltePosition? {message : List Char} {p : Position}
    (hread : sveltePosition? message = some p) :
    p.IsUsable ∧ svelte.Owns p.file.toList ∧ p.file.toList <:+: message := by
  rw [sveltePosition?_eq, Option.ite_none_right_eq_some] at hread
  obtain ⟨token, htoken, hread⟩ := List.exists_of_findSome?_eq_some hread.2
  obtain ⟨hlocated, howns⟩ := svelteToken?_eq_some_iff.mp hread
  obtain ⟨⟨line, column, hsplit, -⟩, hline, hcolumn⟩ := located?_eq_some hlocated
  have hfile : p.file.toList <:+: token := by
    rw [hsplit, List.append_assoc]
    exact (List.prefix_append _ _).isInfix
  exact ⟨howns.isUsable hline hcolumn, howns, hfile.trans (isInfix_of_mem_tokens htoken)⟩

/-- A position is found as it was printed when nothing before it looks like one, and what is found
is always a usable position whose file stands in the message. -/
theorem position?_message (f : Framework) :
    (∀ (before : String) (p : Position) (after : String), f.CanPrint p → f.IsSilent before →
      f.position? (f.message before p after) = some p) ∧
    ∀ (message : String) (p : Position), f.position? message = some p →
      p.IsUsable ∧ f.Owns p.file.toList ∧ p.file.toList <:+: message.toList ∧
        (f = vue → "[vue/compiler-sfc]".toList <:+: message.toList) := by
  cases f with
  | vue =>
      refine ⟨fun before p after hp hbefore => position?_message_vue hp hbefore after, ?_⟩
      intro message p hread
      obtain ⟨husable, howns, hfile, hmark⟩ := isFound_of_vuePosition? hread
      exact ⟨husable, howns, hfile, fun _ => hmark⟩
  | svelte =>
      refine ⟨fun before p after hp hbefore => position?_message_svelte hp hbefore after, ?_⟩
      intro message p hread
      obtain ⟨husable, howns, hfile⟩ := isFound_of_sveltePosition? hread
      refine ⟨husable, howns, hfile, ?_⟩
      intro hframework
      cases hframework

/-- Quoted texts, numerals and files of another kind do no harm before the position, and positions
do none behind it. -/
theorem position?_message_of_drive :
    let p : Position := ⟨"C:/my-app/src/App.vue", 3, 4294967295⟩
    let before := "Unexpected token, expected \",\" at 'Form.vue':7:1, not `vue`"
    let q : Position := ⟨"C:/my-app/src/App.svelte", 4, 2⟩
    let silent := "[plugin:vite-plugin-svelte] \"/src/Form.svelte:7\" and Form.svelte:x:9"
    let m := "[vue/compiler-sfc] bad (setup) (12:1) in \"/src/Form.vue\"."
    (vue.CanPrint p ∧ vue.IsSilent before ∧
      vue.position? (vue.message before p "1 | <a> (9:9) /src/Other.vue") = some p) ∧
    (svelte.CanPrint q ∧ svelte.IsSilent silent ∧
      svelte.position? (svelte.message silent q "/src/Other.svelte:1:1") = some q) ∧
    vue.position? m = some ⟨"/src/Form.vue", 12, 1⟩ ∧ "/src/Form.vue".toList <:+: m.toList := by
  intro p before q silent m
  have hp : vue.CanPrint p := canPrint_iff.mpr
    ⟨⟨by decide, by decide, by decide, by decide, by decide⟩, by decide, by decide, by decide⟩
  have hbefore : vue.IsSilent before := ⟨by decide, by decide⟩
  have hq : svelte.CanPrint q := canPrint_iff.mpr
    ⟨⟨by decide, by decide, by decide, by decide, by decide⟩, by decide, by decide, by decide⟩
  have hsilent : svelte.IsSilent silent := by
    unfold IsSilent
    decide
  have hm : vue.position? m = some ⟨"/src/Form.vue", 12, 1⟩ := by decide +kernel
  obtain ⟨-, -, hfile, -⟩ := (position?_message vue).2 m _ hm
  exact ⟨⟨hp, hbefore, (position?_message vue).1 before p _ hp hbefore⟩,
    ⟨hq, hsilent, (position?_message svelte).1 silent q _ hq hsilent⟩, hm, hfile⟩

end Framework

end ErrorOrigin
