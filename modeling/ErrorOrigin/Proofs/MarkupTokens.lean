import ErrorOrigin.Proofs.CodeFrameLines
import ErrorOrigin.Proofs.TextCuts
import Mathlib.Tactic

/-!
# Tokens of markup

The markup of code is read as HTML is: as tags with their attributes, and the characters between
them.  The reader is strict.  It takes none of the characters that delimit tags and values for
text, and no ampersand that begins no entity.  What it reads in a piece of text does not depend on
the text, so the tags are those that were written, and the code comes back as it was.
-/

namespace ErrorOrigin.Html

open Text

structure Tag where
  name : List Char
  attributes : List (List Char × List Char)
deriving DecidableEq

inductive Token where
  | opened (tag : Tag)
  | closed (name : List Char)
  | shown (c : Char)
deriving DecidableEq

/-- Where a text stands: between tags, or in the value of an attribute, of which some is read. -/
inductive Place where
  | content
  | value (tag : Tag) (key : List Char) (read : List Char)
deriving DecidableEq

inductive Reader where
  | text (place : Place)
  | entity (place : Place) (name : List Char)
  /-- After the first character of a tag. -/
  | tag
  | opening (name : List Char)
  | closing (name : List Char)
  | key (tag : Tag) (key : List Char)
  /-- After an equals sign. -/
  | assigned (tag : Tag) (key : List Char)
  /-- After a value. -/
  | quoted (tag : Tag)
deriving DecidableEq

/-- The characters that delimit tags and values. -/
def delimiters : List Char := ['<', '>', '"', '\'']

def entities : List (List Char × Char) :=
  [("amp".toList, '&'), ("lt".toList, '<'), ("gt".toList, '>'), ("quot".toList, '"'),
    ("#39".toList, '\'')]

def isNameChar (c : Char) : Bool :=
  c.isAlpha || c = '-'

/-- One more character of the text. -/
def Place.add (c : Char) : Place → Reader × List Token
  | content => (.text .content, [.shown c])
  | value tag key read => (.text (.value tag key (read ++ [c])), [])

def Place.leave? (c : Char) : Place → Option Reader
  | content => if c = '<' then some .tag else none
  | value tag key read =>
    if c = '"' then some (.quoted { tag with attributes := tag.attributes ++ [(key, read)] })
    else none

/-- One character, with what has then been read; nothing if it may not stand there. -/
def step : Reader → Char → Option (Reader × List Token)
  | .text place, c =>
    if c = '&' then some (.entity place [], [])
    else if c ∈ delimiters then (place.leave? c).map (·, [])
    else some (place.add c)
  | .entity place name, c =>
    if c = ';' then (entities.lookup name).map place.add
    else if c.isAlphanum ∨ c = '#' then some (.entity place (name ++ [c]), [])
    else none
  | .tag, c =>
    if c = '/' then some (.closing [], [])
    else if isNameChar c then some (.opening [c], [])
    else none
  | .opening name, c =>
    if c = ' ' then some (.key ⟨name, []⟩ [], [])
    else if c = '>' then some (.text .content, [.opened ⟨name, []⟩])
    else if isNameChar c then some (.opening (name ++ [c]), [])
    else none
  | .closing name, c =>
    if c = '>' then some (.text .content, [.closed name])
    else if isNameChar c then some (.closing (name ++ [c]), [])
    else none
  | .key tag key, c =>
    if c = '=' then some (.assigned tag key, [])
    else if isNameChar c then some (.key tag (key ++ [c]), [])
    else none
  | .assigned tag key, c => if c = '"' then some (.text (.value tag key []), []) else none
  | .quoted tag, c =>
    if c = ' ' then some (.key tag [], [])
    else if c = '>' then some (.text .content, [.opened tag])
    else none

def run : Reader → List Char → Option (Reader × List Token)
  | r, [] => some (r, [])
  | r, c :: rest =>
    match step r c with
    | none => none
    | some (r, found) => (run r rest).map fun (r, more) => (r, found ++ more)

/-- The tokens of markup, which begins and ends between tags. -/
def tokens? (s : List Char) : Option (List Token) :=
  match run (.text .content) s with
  | some (.text .content, tokens) => some tokens
  | _ => none

variable {r r' r'' : Reader} {s s' : List Char} {found found' : List Token}

theorem run_cons_eq_some_iff {c : Char} : run r (c :: s) = some (r'', found) ↔
    ∃ r' first more, step r c = some (r', first) ∧ run r' s = some (r'', more) ∧
      first ++ more = found := by
  rw [run]
  constructor
  · intro hrun
    cases hstep : step r c with
    | none => simp [hstep] at hrun
    | some next =>
        simp only [hstep, Option.map_eq_some_iff, Prod.mk.injEq] at hrun
        obtain ⟨⟨_, more⟩, hmore, rfl, hfound⟩ := hrun
        exact ⟨next.1, next.2, more, rfl, hmore, hfound⟩
  · rintro ⟨r', first, more, hstep, hmore, rfl⟩
    simp only [hstep, hmore, Option.map_some]

theorem run_append (hrun : run r s = some (r', found)) (hrun' : run r' s' = some (r'', found')) :
    run r (s ++ s') = some (r'', found ++ found') := by
  induction s generalizing r found with
  | nil =>
      obtain ⟨rfl, rfl⟩ : r = r' ∧ [] = found := by simpa [run] using hrun
      exact hrun'
  | cons c rest ih =>
      obtain ⟨next, first, more, hstep, hmore, rfl⟩ := run_cons_eq_some_iff.mp hrun
      rw [List.cons_append, List.append_assoc]
      exact run_cons_eq_some_iff.mpr ⟨next, first, _, hstep, ih hmore, rfl⟩

/-! ## Reading text that was escaped -/

/-- A character stands for itself, or is written as an entity. -/
theorem escapeChar_cases (c : Char) :
    (c ≠ '&' ∧ c ∉ delimiters ∧ escapeChar c = [c]) ∨
      ∃ name, (name, c) ∈ entities ∧ escapeChar c = '&' :: (name ++ [';']) := by
  rw [escapeChar]
  split_ifs with hamp hlt hgt hquot hapos
  · exact .inr ⟨"amp".toList, by simp [entities, hamp], rfl⟩
  · exact .inr ⟨"lt".toList, by simp [entities, hlt], rfl⟩
  · exact .inr ⟨"gt".toList, by simp [entities, hgt], rfl⟩
  · exact .inr ⟨"quot".toList, by simp [entities, hquot], rfl⟩
  · exact .inr ⟨"#39".toList, by simp [entities, hapos], rfl⟩
  · exact .inl ⟨hamp, by simp [delimiters, hlt, hgt, hquot, hapos], rfl⟩

theorem run_escapeChar (place : Place) (c : Char) :
    run (.text place) (escapeChar c) = some (place.add c) := by
  rcases escapeChar_cases c with ⟨hamp, hplain, hself⟩ | ⟨name, hentity, hname⟩
  · rw [hself]
    cases place <;> simp [run, step, hamp, hplain, Place.add]
  · rw [hname]
    simp only [entities, List.mem_cons, Prod.mk.injEq, List.not_mem_nil, or_false] at hentity
    rcases hentity with ⟨rfl, rfl⟩ | ⟨rfl, rfl⟩ | ⟨rfl, rfl⟩ | ⟨rfl, rfl⟩ | ⟨rfl, rfl⟩
    all_goals cases place <;> rfl

theorem run_escape_content (s : List Char) :
    run (.text .content) (s.flatMap escapeChar) = some (.text .content, s.map .shown) := by
  induction s with
  | nil => rfl
  | cons c rest ih => exact run_append (run_escapeChar .content c) ih

/-- Text that looks like tags and entities is text. -/
example : tokens? ("</b>&lt;".toList.flatMap escapeChar) = some ("</b>&lt;".toList.map .shown) := by
  decide +kernel

theorem run_escape_value (tag : Tag) (key read s : List Char) :
    run (.text (.value tag key read)) (s.flatMap escapeChar) =
      some (.text (.value tag key (read ++ s)), []) := by
  induction s generalizing read with
  | nil => rw [List.append_nil]; rfl
  | cons c rest ih =>
      have hrest := ih (read ++ [c])
      rw [List.append_assoc, List.singleton_append] at hrest
      exact run_append (run_escapeChar (.value tag key read) c) hrest

/-- A piece of markup: fixed, or a text that is escaped. -/
inductive Piece where
  | fixed (s : String)
  | text (s : List Char)
deriving DecidableEq

def Piece.write : Piece → List Char
  | fixed s => s.toList
  | text s => s.flatMap escapeChar

def openingPieces (options : RenderOptions) : List Piece :=
  [.fixed "<pre class=\"shiki shiki-themes ", .text options.themes.light.toList, .fixed " ",
    .text options.themes.dark.toList, .fixed "\" data-lang=\"",
    .text options.language.name.toList, .fixed "\" tabindex=\"0\"><code>"]

def Span.pieces (s : Span) : List Piece :=
  [.fixed (if s.marked then "<span class=\"line highlighted error\" data-line=\""
      else "<span class=\"line\" data-line=\""),
    .text (Nat.toDigits 10 s.number), .fixed "\">", .text s.line, .fixed "</span>"]

def pagePieces (options : RenderOptions) (spans : List Span) : List Piece :=
  openingPieces options ++ [.fixed "\n"].intercalate (spans.map Span.pieces) ++
    [.fixed "</code></pre>"]

theorem flatMap_escapeChar_language (language : Language) :
    language.name.toList.flatMap escapeChar = language.name.toList := by
  cases language <;> decide

theorem flatMap_escapeChar_numeral (n : Nat) :
    (Nat.toDigits 10 n).flatMap escapeChar = Nat.toDigits 10 n := by
  have hentities : ∀ e ∈ entities, e.2.isDigit = false := by decide
  have hplain : ∀ c ∈ Nat.toDigits 10 n, escapeChar c = [c] := by
    intro c hc
    have hdigit := Nat.isDigit_of_mem_toDigits (by decide) (by decide) hc
    rcases escapeChar_cases c with ⟨-, -, hself⟩ | ⟨name, hentity, -⟩
    · exact hself
    · rw [hentities _ hentity] at hdigit
      cases hdigit
  rw [List.flatMap_congr hplain, List.flatMap_singleton']

theorem toList_escape (s : List Char) : (escape s).toList = s.flatMap escapeChar :=
  String.toList_ofList

theorem toList_opening (options : RenderOptions) :
    (opening options).toList = (openingPieces options).flatMap Piece.write := by
  unfold opening
  simp only [openingPieces, String.toList_append, toList_escape, List.flatMap_cons,
    List.flatMap_nil, List.append_assoc, List.append_nil, Piece.write,
    flatMap_escapeChar_language]

theorem Span.toList_write (s : Span) : s.write.toList = s.pieces.flatMap Piece.write := by
  unfold Span.write writeLine Span.pieces
  simp only [String.toList_append, toList_escape, List.flatMap_cons, List.flatMap_nil,
    List.append_assoc, List.append_nil, Piece.write, flatMap_escapeChar_numeral]
  cases s.marked <;> simp

theorem flatMap_intercalate {α β : Type} (f : α → List β) (separator : List α)
    (texts : List (List α)) :
    (separator.intercalate texts).flatMap f =
      (separator.flatMap f).intercalate (texts.map (·.flatMap f)) := by
  induction texts with
  | nil => rfl
  | cons text rest ih =>
      cases rest with
      | nil => simp
      | cons text' rest =>
          rw [List.intercalate_cons_cons, List.flatMap_append, List.flatMap_append, ih]
          simp

theorem toList_page (options : RenderOptions) (spans : List Span) :
    (page options spans).toList = (pagePieces options spans).flatMap Piece.write := by
  have hspans : (spans.map Span.write).map String.toList =
      (spans.map Span.pieces).map (·.flatMap Piece.write) := by
    rw [List.map_map, List.map_map]
    exact List.map_congr_left fun s _ => s.toList_write
  unfold page pagePieces closing
  rw [String.toList_append, String.toList_append, String.toList_intercalate, toList_opening, hspans,
    List.flatMap_append, List.flatMap_append, flatMap_intercalate]
  rfl

def Span.tag (s : Span) : Tag :=
  ⟨"span".toList,
    [("class".toList, if s.marked then "line highlighted error".toList else "line".toList),
      ("data-line".toList, Nat.toDigits 10 s.number)]⟩

def Span.tokens (s : Span) : List Token :=
  .opened s.tag :: (s.line.map .shown ++ [.closed "span".toList])

def openingTokens (options : RenderOptions) : List Token :=
  [.opened ⟨"pre".toList,
      [("class".toList, "shiki shiki-themes ".toList ++ options.themes.light.toList ++ [' '] ++
          options.themes.dark.toList),
        ("data-lang".toList, options.language.name.toList), ("tabindex".toList, ['0'])]⟩,
    .opened ⟨"code".toList, []⟩]

def pageTokens (options : RenderOptions) (spans : List Span) : List Token :=
  openingTokens options ++ [.shown '\n'].intercalate (spans.map Span.tokens) ++
    [.closed "code".toList, .closed "pre".toList]

theorem run_spanPieces (s : Span) :
    run (.text .content) (s.pieces.flatMap Piece.write) = some (.text .content, s.tokens) := by
  let key := "data-line".toList
  let tag : Tag := ⟨"span".toList,
    [("class".toList, if s.marked then "line highlighted error".toList else "line".toList)]⟩
  let number := Nat.toDigits 10 s.number
  have hclass : run (.text .content) (if s.marked then
        "<span class=\"line highlighted error\" data-line=\"" else
        "<span class=\"line\" data-line=\"").toList = some (.text (.value tag key []), []) := by
    cases hmarked : s.marked <;> simp only [tag, hmarked] <;> decide
  have hnumber := run_escape_value tag key [] number
  have hend : run (.text (.value tag key number)) "\">".toList = some (.text .content,
      [.opened { tag with attributes := tag.attributes ++ [(key, number)] }]) := rfl
  have hline := run_escape_content s.line
  have hclosed : run (.text .content) "</span>".toList =
      some (.text .content, [.closed "span".toList]) := by decide
  simp only [Span.pieces, List.flatMap_cons, List.flatMap_nil, List.append_nil, Piece.write]
  exact run_append hclass (run_append hnumber (run_append hend (run_append hline hclosed)))

theorem run_openingPieces (options : RenderOptions) :
    run (.text .content) ((openingPieces options).flatMap Piece.write) =
      some (.text .content, openingTokens options) := by
  let light := options.themes.light.toList
  let dark := options.themes.dark.toList
  let themes := "shiki shiki-themes ".toList ++ light ++ [' '] ++ dark
  let pre : Tag := ⟨"pre".toList, []⟩
  let named : Tag := ⟨"pre".toList, [("class".toList, themes)]⟩
  have hpre : run (.text .content) "<pre class=\"shiki shiki-themes ".toList =
      some (.text (.value pre "class".toList "shiki shiki-themes ".toList), []) := by decide
  have hlight := run_escape_value pre "class".toList "shiki shiki-themes ".toList light
  have hspace : run (.text (.value pre "class".toList ("shiki shiki-themes ".toList ++ light)))
      " ".toList = some (.text (.value pre "class".toList
        ("shiki shiki-themes ".toList ++ light ++ [' '])), []) := rfl
  have hdark := run_escape_value pre "class".toList ("shiki shiki-themes ".toList ++ light ++ [' '])
    dark
  have hnamed : run (.text (.value pre "class".toList themes)) "\" data-lang=\"".toList =
      some (.text (.value named "data-lang".toList []), []) := rfl
  have hlanguage := run_escape_value named "data-lang".toList [] options.language.name.toList
  have hcode : run (.text (.value named "data-lang".toList options.language.name.toList))
      "\" tabindex=\"0\"><code>".toList = some (.text .content, openingTokens options) := rfl
  simp only [openingPieces, List.flatMap_cons, List.flatMap_nil, List.append_nil, Piece.write]
  exact run_append hpre (run_append hlight (run_append hspace (run_append hdark (run_append hnamed
    (run_append hlanguage hcode)))))

theorem run_intercalate {α : Type} {write : α → List Char} {tokens : α → List Token}
    {separator : List Char} {between : List Token}
    (hseparator : run (.text .content) separator = some (.text .content, between))
    (hwrite : ∀ a, run (.text .content) (write a) = some (.text .content, tokens a)) (l : List α) :
    run (.text .content) (separator.intercalate (l.map write)) =
      some (.text .content, between.intercalate (l.map tokens)) := by
  induction l with
  | nil => rfl
  | cons a rest ih =>
      cases rest with
      | nil => simpa using hwrite a
      | cons a' rest =>
          simp only [List.map_cons, List.intercalate_cons_cons] at ih ⊢
          exact run_append (run_append (hwrite a) hseparator) ih

theorem tokens?_page (options : RenderOptions) (spans : List Span) :
    tokens? (page options spans).toList = some (pageTokens options spans) := by
  have hbreak : run (.text .content) ([Piece.fixed "\n"].flatMap Piece.write) =
      some (.text .content, [.shown '\n']) := by decide
  have hspans := run_intercalate hbreak run_spanPieces spans
  have hclosed : run (.text .content) ([Piece.fixed "</code></pre>"].flatMap Piece.write) =
      some (.text .content, [.closed "code".toList, .closed "pre".toList]) := by decide
  have hpage := run_append (run_append (run_openingPieces options) hspans) hclosed
  rw [toList_page, pagePieces, List.flatMap_append, List.flatMap_append, flatMap_intercalate,
    List.map_map, tokens?, Function.comp_def, hpage]
  rfl

/-! ## Lines read back -/

def Tag.value? (t : Tag) (key : String) : Option (List Char) :=
  t.attributes.lookup key.toList

def Tag.lineNumber? (t : Tag) : Option Nat :=
  if t.name = "span".toList then
    (t.value? "data-line").bind (readNumeral? Position.greatest)
  else none

def leadingText : List Token → List Char
  | .shown c :: rest => c :: leadingText rest
  | _ => []

def readSpans : List Token → List Span
  | [] => []
  | .opened tag :: rest =>
    match tag.lineNumber? with
    | none => readSpans rest
    | some number =>
      ⟨number, tag.value? "class" = some "line highlighted error".toList, leadingText rest⟩ ::
        readSpans rest
  | _ :: rest => readSpans rest

theorem leadingText_shown (line name : List Char) (rest : List Token) :
    leadingText (line.map .shown ++ .closed name :: rest) = line := by
  induction line with
  | nil => rfl
  | cons c line ih => exact congrArg (c :: ·) ih

theorem readSpans_shown (line : List Char) (rest : List Token) :
    readSpans (line.map .shown ++ rest) = readSpans rest := by
  induction line with
  | nil => rfl
  | cons c line ih => exact ih

theorem Span.lineNumber?_tag {s : Span} (hnumber : s.number ≤ Position.greatest) :
    s.tag.lineNumber? = some s.number := by
  have hvalue : s.tag.value? "data-line" = some (Nat.toDigits 10 s.number) := rfl
  have hname : s.tag.name = "span".toList := rfl
  rw [Tag.lineNumber?, if_pos hname, hvalue, Option.bind_some, readNumeral?_toDigits hnumber]

theorem Span.value?_class_tag (s : Span) :
    s.tag.value? "class" = some "line highlighted error".toList ↔ s.marked = true := by
  have hvalue : s.tag.value? "class" =
      some (if s.marked then "line highlighted error".toList else "line".toList) := rfl
  rw [hvalue]
  cases s.marked <;> decide

theorem readSpans_tokens {s : Span} (hnumber : s.number ≤ Position.greatest) (rest : List Token) :
    readSpans (s.tokens ++ rest) = s :: readSpans rest := by
  have hopened : s.tokens ++ rest =
      .opened s.tag :: (s.line.map .shown ++ .closed "span".toList :: rest) := by
    simp [Span.tokens]
  simp only [hopened, readSpans, Span.lineNumber?_tag hnumber, Span.value?_class_tag,
    leadingText_shown, readSpans_shown, Bool.decide_eq_true]

theorem readSpans_intercalate {spans : List Span}
    (hnumbers : ∀ s ∈ spans, s.number ≤ Position.greatest) (rest : List Token) :
    readSpans ([.shown '\n'].intercalate (spans.map Span.tokens) ++ rest) =
      spans ++ readSpans rest := by
  induction spans with
  | nil => rfl
  | cons s tail ih =>
      rw [List.forall_mem_cons] at hnumbers
      cases tail with
      | nil =>
          rw [List.map_singleton, List.intercalate_singleton, readSpans_tokens hnumbers.1]
          rfl
      | cons s' tail =>
          -- the line feed between the two is text that opens nothing
          have hrest := ih hnumbers.2
          rw [List.map_cons] at hrest
          rw [List.map_cons, List.map_cons, List.intercalate_cons_cons, List.append_assoc,
            List.append_assoc, readSpans_tokens hnumbers.1]
          exact congrArg (s :: ·) hrest

theorem readSpans_pageTokens (options : RenderOptions) {spans : List Span}
    (hnumbers : ∀ s ∈ spans, s.number ≤ Position.greatest) :
    readSpans (pageTokens options spans) = spans := by
  rw [pageTokens, List.append_assoc]
  exact (readSpans_intercalate hnumbers _).trans (List.append_nil spans)

/-! ## What does not depend on the texts -/

/-- A tag without the values of its attributes. -/
inductive Mark where
  | opened (name : List Char) (keys : List (List Char))
  | closed (name : List Char)
deriving DecidableEq

def Token.marks : Token → List Mark
  | .opened tag => [.opened tag.name (tag.attributes.map Prod.fst)]
  | .closed name => [.closed name]
  | .shown _ => []

def spanMarks : List Mark :=
  [.opened "span".toList ["class".toList, "data-line".toList], .closed "span".toList]

def pageMarks (count : Nat) : List Mark :=
  [.opened "pre".toList ["class".toList, "data-lang".toList, "tabindex".toList],
      .opened "code".toList []] ++
    (List.replicate count spanMarks).flatten ++ [.closed "code".toList, .closed "pre".toList]

theorem Span.flatMap_marks_tokens (s : Span) : s.tokens.flatMap Token.marks = spanMarks := by
  have hline : (s.line.map Token.shown).flatMap Token.marks = [] := by
    simp [List.flatMap_map, Token.marks]
  rw [Span.tokens, List.flatMap_cons, List.flatMap_append, hline]
  rfl

theorem nil_intercalate {α : Type} (texts : List (List α)) :
    [].intercalate texts = texts.flatten := by
  induction texts with
  | nil => rfl
  | cons text rest ih =>
      cases rest with
      | nil => simp
      | cons text' rest =>
          rw [List.intercalate_cons_cons, ih, List.append_nil]
          rfl

theorem flatMap_marks_pageTokens (options : RenderOptions) (spans : List Span) :
    (pageTokens options spans).flatMap Token.marks = pageMarks spans.length := by
  have hspans : (spans.map Span.tokens).map (·.flatMap Token.marks) =
      List.replicate spans.length spanMarks := by
    rw [List.map_map, ← List.map_const']
    exact List.map_congr_left fun s _ => s.flatMap_marks_tokens
  have hbreak : [Token.shown '\n'].flatMap Token.marks = [] := rfl
  rw [pageTokens, List.flatMap_append, List.flatMap_append, flatMap_intercalate, hspans, hbreak,
    nil_intercalate]
  rfl

def fixedTexts : List String :=
  ["<pre class=\"shiki shiki-themes ", " ", "\" data-lang=\"", "\" tabindex=\"0\"><code>",
    "<span class=\"line\" data-line=\"", "<span class=\"line highlighted error\" data-line=\"",
    "\">", "</span>", "\n", "</code></pre>"]

theorem not_mem_delimiters_of_mem_escapeChar {c d : Char} (hd : d ∈ escapeChar c) :
    d ∉ delimiters := by
  have hentities : ∀ e ∈ entities, ('&' :: (e.1 ++ [';'])).all (· ∉ delimiters) = true := by
    decide
  rcases escapeChar_cases c with ⟨-, hplain, hself⟩ | ⟨name, hentity, hname⟩
  · rw [hself, List.mem_singleton] at hd
    rwa [hd]
  · rw [hname] at hd
    exact of_decide_eq_true (List.all_eq_true.mp (hentities _ hentity) d hd)

theorem fixed_mem_fixedTexts {options : RenderOptions} {spans : List Span} {s : String}
    (hs : .fixed s ∈ pagePieces options spans) : s ∈ fixedTexts := by
  rw [pagePieces, List.mem_append, List.mem_append] at hs
  rcases hs with (hopening | hspans) | hclosed
  · simp only [openingPieces, List.mem_cons, Piece.fixed.injEq, List.not_mem_nil, or_false,
      reduceCtorEq, false_or] at hopening
    rcases hopening with rfl | rfl | rfl | rfl <;> decide
  · rcases mem_of_mem_intercalate hspans with hbreak | ⟨pieces, hpieces, hs⟩
    · obtain rfl := Piece.fixed.inj (List.mem_singleton.mp hbreak)
      decide
    · obtain ⟨span, -, rfl⟩ := List.mem_map.mp hpieces
      simp only [Span.pieces, List.mem_cons, Piece.fixed.injEq, List.not_mem_nil, or_false,
        reduceCtorEq, false_or] at hs
      rcases hs with rfl | rfl | rfl
      · cases span.marked <;> decide
      · decide
      · decide
  · obtain rfl := Piece.fixed.inj (List.mem_singleton.mp hclosed)
    decide

/-- A piece is fixed, or has no character that delimits a tag or a value. -/
theorem fixed_or_not_mem_delimiters {options : RenderOptions} {spans : List Span} {piece : Piece}
    (hpiece : piece ∈ pagePieces options spans) :
    (∃ s ∈ fixedTexts, piece = .fixed s) ∨ ∀ c ∈ piece.write, c ∉ delimiters := by
  cases piece with
  | fixed s => exact .inl ⟨s, fixed_mem_fixedTexts hpiece, rfl⟩
  | text s =>
      refine .inr fun c hc => ?_
      obtain ⟨d, -, hc⟩ := List.mem_flatMap.mp hc
      exact not_mem_delimiters_of_mem_escapeChar hc

theorem isEntity_of_run {place : Place} {name s : List Char}
    (hrun : run (.entity place name) s = some (.text .content, found)) :
    ∃ e ∈ entities, e.1 ++ [';'] <+: name ++ s := by
  induction s generalizing name found with
  | nil => simp [run] at hrun
  | cons c rest ih =>
      obtain ⟨r', first, more, hstep, hrest, -⟩ := run_cons_eq_some_iff.mp hrun
      rw [step] at hstep
      split_ifs at hstep with hend hname
      · obtain rfl := hend
        obtain ⟨character, hlookup, -⟩ := Option.map_eq_some_iff.mp hstep
        obtain ⟨before, after, hentities, -⟩ := List.lookup_eq_some_iff.mp hlookup
        refine ⟨(name, character), by simp [hentities], ?_⟩
        simp
      · cases hstep
        simpa using ih hrest

theorem isEntity_of_ampersand {before after : List Char}
    (hrun : run r (before ++ '&' :: after) = some (.text .content, found)) :
    ∃ e ∈ entities, e.1 ++ [';'] <+: after := by
  induction before generalizing r found with
  | nil =>
      obtain ⟨r', first, more, hstep, hrest, -⟩ := run_cons_eq_some_iff.mp hrun
      -- an ampersand stands nowhere but in text
      cases r with
      | text place =>
          cases hstep
          exact isEntity_of_run hrest
      | entity place name => simp [step] at hstep
      | _ => simp [step, isNameChar] at hstep
  | cons c rest ih =>
      obtain ⟨r', first, more, -, hrest, -⟩ := run_cons_eq_some_iff.mp hrun
      exact ih hrest

theorem isEntity_of_tokens? {tokens : List Token} {before after : List Char}
    (htokens : tokens? (before ++ '&' :: after) = some tokens) :
    ∃ e ∈ entities, e.1 ++ [';'] <+: after := by
  rw [tokens?] at htokens
  split at htokens
  · exact isEntity_of_ampersand ‹_›
  · cases htokens

theorem number_line_capped (first : Nat) (marked : Option Nat) (ls : List (List Char)) :
    (capped first marked ls).map (fun s => (s.number, s.line)) =
      ls.zipIdx.map fun (line, offset) => (min (first + offset) Position.greatest, line) := by
  rw [capped, List.map_map, List.zipIdx_eq_map_add (i := first), List.map_map]
  rfl

theorem marked_capped {first : Nat} {marked : Option Nat} {ls : List (List Char)} {s : Span}
    (hs : s ∈ capped first marked ls) :
    s.number ≤ Position.greatest ∧ (s.marked = true ↔ marked = some s.number) := by
  obtain ⟨⟨line, number⟩, -, rfl⟩ := List.mem_map.mp hs
  exact ⟨Nat.min_le_right _ _, decide_eq_true_iff⟩

/-- The markup of code has a span for each line, and reads as the tags of these with the characters
of the code between them.  The lines come back with their numbers, and the marked ones are those
with the number to mark.  Which tags there are depends on nothing but the count of the lines: what
delimits them is in the fixed pieces, and an ampersand begins one of five entities. -/
theorem read_render (code : String) (options : RenderOptions) :
    let ls := lines code.toList
    let spans := capped options.startLine options.markedLine ls
    let markup := render code options
    let tokens := pageTokens options spans
    let pieces := pagePieces options spans
    markup = opening options ++ String.intercalate "\n" (spans.map Span.write) ++ closing ∧
    spans.map (fun s => (s.number, s.line)) = (ls.zipIdx.map fun (line, offset) =>
      (min (options.startLine + offset) Position.greatest, line)) ∧
    (∀ s ∈ spans, s.marked = true ↔ options.markedLine = some s.number) ∧
    tokens? markup.toList = some tokens ∧ readSpans tokens = spans ∧
    tokens.flatMap Token.marks = pageMarks ls.length ∧
    markup.toList = pieces.flatMap Piece.write ∧
    (∀ piece ∈ pieces,
      (∃ s ∈ fixedTexts, piece = .fixed s) ∨ ∀ c ∈ piece.write, c ∉ delimiters) ∧
    ∀ before after, markup.toList = before ++ '&' :: after →
      ∃ e ∈ entities, e.1 ++ [';'] <+: after := by
  intro ls spans markup tokens pieces
  have hpage : markup = page options spans := render_eq_page code options
  have htokens : tokens? markup.toList = some tokens := by
    rw [hpage]
    exact tokens?_page options spans
  have hmarks : tokens.flatMap Token.marks = pageMarks ls.length := by
    have hcount : spans.length = ls.length := by simp [spans, capped]
    rw [flatMap_marks_pageTokens, hcount]
  have hpieces : markup.toList = pieces.flatMap Piece.write := by
    rw [hpage]
    exact toList_page options spans
  refine ⟨hpage, number_line_capped _ _ _, fun s hs => (marked_capped hs).2, htokens,
    readSpans_pageTokens options fun s hs => (marked_capped hs).1, hmarks, hpieces,
    fun piece => fixed_or_not_mem_delimiters, ?_⟩
  intro before after hsplit
  rw [hsplit] at htokens
  exact isEntity_of_tokens? htokens

end ErrorOrigin.Html
