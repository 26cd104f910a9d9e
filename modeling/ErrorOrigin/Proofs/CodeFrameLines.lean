import ErrorOrigin.Proofs.HtmlCache
import ErrorOrigin.Proofs.StackText
import Mathlib.Tactic

/-!
# Lines of code frames

A snippet is cut out of its source by lines, joined to a text, and taken apart into lines again
when it is rendered.  The second time a carriage return at the end of a line goes with the line
break, and a last line that is empty is none.  Everything else is shown as it stands in the source.
-/

namespace ErrorOrigin

open Text

/-! ## Lines of joined lines -/

namespace Text

/-- What is left of lines that were joined and are taken apart again. -/
def reread (ls : List (List Char)) : List (List Char) :=
  ls.dropLast.map dropReturn ++ ls.getLast?.toList.filter (· ≠ [])

theorem lines_joinLines {ls : List (List Char)} (hne : ls ≠ []) (hls : ∀ l ∈ ls, '\n' ∉ l) :
    lines (joinLines ls) = reread ls := by
  rw [lines, joinLines, List.splitOn_intercalate '\n' hls hne]
  rfl

theorem dropReturn_eq_self_iff {s : List Char} :
    dropReturn s = s ↔ s.getLast? ≠ some '\r' := by
  rw [dropReturn]
  split
  · rename_i hlast
    have hne : s ≠ [] := by
      rintro rfl
      cases hlast
    have hlength : s.dropLast.length < s.length := by
      rw [List.length_dropLast]
      have hpos := List.length_pos_iff.mpr hne
      omega
    constructor
    · intro heq
      rw [heq] at hlength
      exact absurd hlength (lt_irrefl _)
    · intro hnot
      exact absurd hlast hnot
  · rename_i hlast
    simpa using hlast

theorem reread_concat (front : List (List Char)) (last : List Char) :
    reread (front ++ [last]) = front.map dropReturn ++ if last = [] then [] else [last] := by
  rw [reread, List.dropLast_concat, List.getLast?_concat]
  by_cases hlast : last = [] <;> simp [hlast]

end Text

namespace Html

/-- A line of the markup before it is written. -/
structure Span where
  number : Nat
  marked : Bool
  line : List Char
deriving DecidableEq

def Span.write (s : Span) : String :=
  writeLine s.number s.marked s.line

def page (options : RenderOptions) (spans : List Span) : String :=
  opening options ++ String.intercalate "\n" (spans.map Span.write) ++ closing

/-- Lines with their numbers, as far as numbers go; those with one number are marked. -/
def capped (first : Nat) (marked : Option Nat) (ls : List (List Char)) : List Span :=
  (ls.zipIdx first).map fun (line, number) =>
    let number := min number Position.greatest
    ⟨number, marked = some number, line⟩

theorem render_eq_page (code : String) (options : RenderOptions) :
    render code options =
      page options (capped options.startLine options.markedLine (lines code.toList)) := by
  have hspans : ((lines code.toList).zipIdx.map fun (line, offset) =>
      let number := lineNumber options.startLine offset
      writeLine number (options.markedLine = some number) line) =
        (capped options.startLine options.markedLine (lines code.toList)).map Span.write := by
    rw [capped, List.map_map, List.zipIdx_eq_map_add (i := options.startLine), List.map_map]
    rfl
  rw [render, page, hspans]

theorem zipIdx_map_range' {α : Type} (g : Nat → α) (first count : Nat) :
    ((List.range' first count).map g).zipIdx first =
      (List.range' first count).map fun k => (g k, k) := by
  induction count generalizing first with
  | zero => rfl
  | succ count ih =>
      rw [List.range'_succ, List.map_cons, List.zipIdx_cons, ih (first + 1), List.map_cons]

/-- The spans of lines that are given by their numbers. -/
theorem capped_map_range' (marked : Option Nat) (g : Nat → List Char) (first count : Nat) :
    capped first marked ((List.range' first count).map g) =
      (List.range' first count).map fun k =>
        ⟨min k Position.greatest, marked = some (min k Position.greatest), g k⟩ := by
  rw [capped, zipIdx_map_range', List.map_map]
  rfl

end Html

namespace Snippet

def sourceLine (source : String) (number : Nat) : List Char :=
  (lines source.toList)[number - 1]?.getD []

theorem take_drop_lines {source : String} {start stop : Nat} (hstart : 1 ≤ start)
    (hstop : stop ≤ (lines source.toList).length) :
    ((lines source.toList).drop (start - 1)).take (stop + 1 - start) =
      (List.range' start (stop + 1 - start)).map (sourceLine source) := by
  apply List.ext_getElem?
  intro i
  rw [List.getElem?_take, List.getElem?_drop, List.getElem?_map]
  by_cases hi : i < stop + 1 - start
  · have hindex : start - 1 + i < (lines source.toList).length := by omega
    have hnumber : start + i - 1 = start - 1 + i := by omega
    rw [if_pos hi, List.getElem?_range' hi, Option.map_some, sourceLine, Nat.one_mul, hnumber,
      List.getElem?_eq_getElem hindex, Option.getD_some]
  · have hnone : (List.range' start (stop + 1 - start))[i]? = none := by
      rw [List.getElem?_eq_none_iff, List.length_range']
      omega
    rw [if_neg hi, hnone, Option.map_none]

theorem not_mem_sourceLine (source : String) (number : Nat) : '\n' ∉ sourceLine source number := by
  rw [sourceLine]
  cases hline : (lines source.toList)[number - 1]? with
  | none => exact List.not_mem_nil
  | some line => exact not_mem_of_mem_lines (List.mem_of_getElem? hline)

theorem cut?_eq {source : String} {line : Nat} (hfirst : 1 ≤ line)
    (hcount : line ≤ (lines source.toList).length) (context : Nat) :
    let start := max 1 (line - context)
    let stop := min (lines source.toList).length (line + context)
    cut? source line context =
      some ⟨String.ofList
        (joinLines ((List.range' start (stop + 1 - start)).map (sourceLine source))), start,
        line⟩ := by
  intro start stop
  rw [cut?, if_pos ⟨hfirst, hcount⟩]
  simp only [take_drop_lines (Nat.le_max_left 1 (line - context))
    (Nat.min_le_left (lines source.toList).length (line + context)), start, stop]

/-- What is shown of a window: not its last line if that is empty, and no return before a break. -/
theorem lines_joinLines_window (source : String) {start stop : Nat} (hstart : 1 ≤ start)
    (hstop : start ≤ stop) :
    let last := if sourceLine source stop = [] then stop - 1 else stop
    lines (joinLines ((List.range' start (stop + 1 - start)).map (sourceLine source))) =
      (List.range' start (last + 1 - start)).map fun k =>
        if k = stop then sourceLine source k else dropReturn (sourceLine source k) := by
  intro last
  have hsplit : List.range' start (stop + 1 - start) =
      List.range' start (stop - start) ++ [stop] := by
    have hlength : stop + 1 - start = stop - start + 1 := by omega
    have hend : start + (stop - start) = stop := by omega
    rw [hlength, List.range'_1_concat, hend]
  have hfront : (List.range' start (stop - start)).map (fun k =>
      if k = stop then sourceLine source k else dropReturn (sourceLine source k)) =
        ((List.range' start (stop - start)).map (sourceLine source)).map dropReturn := by
    rw [List.map_map]
    apply List.map_congr_left
    intro k hk
    have hne : k ≠ stop := by
      rw [List.mem_range'_1] at hk
      omega
    rw [if_neg hne]
    rfl
  have hbreaks : ∀ l ∈ (List.range' start (stop + 1 - start)).map (sourceLine source),
      '\n' ∉ l := by
    intro l hl
    obtain ⟨k, -, rfl⟩ := List.mem_map.mp hl
    exact not_mem_sourceLine source k
  rw [lines_joinLines (by simp [hsplit]) hbreaks, hsplit, List.map_append, List.map_singleton,
    reread_concat, ← hfront]
  by_cases hempty : sourceLine source stop = []
  · have hlast : last + 1 - start = stop - start := by
      simp only [last, hempty, if_true]
      omega
    rw [hlast, if_pos hempty, List.append_nil]
  · have hlast : last = stop := if_neg hempty
    rw [hlast, hsplit, if_neg hempty, List.map_append, List.map_singleton, if_pos rfl]

end Snippet

/-! ## The spans of a window -/

namespace Html

open Snippet

/-- The lines of a source with these numbers, one of them marked. -/
def sourceSpans (source : String) (marked start stop : Nat) : List Span :=
  (List.range' start (stop + 1 - start)).map fun k => ⟨k, k = marked, sourceLine source k⟩

/-- The lines with these numbers as they are shown when the last of the window is `stop`. -/
def shownSpans (source : String) (marked start stop : Nat) : List Span :=
  let last := if sourceLine source stop = [] then stop - 1 else stop
  (List.range' start (last + 1 - start)).map fun k =>
    ⟨min k Position.greatest, min k Position.greatest = marked,
      if k = stop then sourceLine source k else dropReturn (sourceLine source k)⟩

theorem map_range'_eq_map_range'_iff {α : Type} {f g : Nat → α} {first m n : Nat} :
    (List.range' first m).map f = (List.range' first n).map g ↔
      m = n ∧ ∀ k, first ≤ k → k < first + m → f k = g k := by
  constructor
  · intro heq
    have hlength : m = n := by simpa using congrArg List.length heq
    subst n
    refine ⟨rfl, fun k hfirst hlast => ?_⟩
    exact List.map_inj_left.mp heq k (List.mem_range'_1.mpr ⟨hfirst, hlast⟩)
  · rintro ⟨rfl, hsame⟩
    apply List.map_congr_left
    intro k hk
    obtain ⟨hfirst, hlast⟩ := List.mem_range'_1.mp hk
    exact hsame k hfirst hlast

theorem shownSpans_eq_sourceSpans_iff (source : String) (marked : Nat) {start stop : Nat}
    (hstart : 1 ≤ start) (hstop : start ≤ stop) :
    shownSpans source marked start stop = sourceSpans source marked start stop ↔
      sourceLine source stop ≠ [] ∧
        (∀ k, start ≤ k → k < stop → (sourceLine source k).getLast? ≠ some '\r') ∧
        stop ≤ Position.greatest := by
  constructor
  · intro heq
    obtain ⟨hcount, hsame⟩ := map_range'_eq_map_range'_iff.mp heq
    have hne : sourceLine source stop ≠ [] := by
      intro hempty
      rw [if_pos hempty] at hcount
      omega
    have hspan (k : Nat) (hk : start ≤ k) (hle : k ≤ stop) : min k Position.greatest = k ∧
        (if k = stop then sourceLine source k else dropReturn (sourceLine source k)) =
          sourceLine source k := by
      have hboth := Span.mk.injEq .. ▸ hsame k hk (by omega)
      exact ⟨hboth.1, hboth.2.2⟩
    refine ⟨hne, ?_, min_eq_left_iff.mp (hspan stop hstop le_rfl).1⟩
    intro k hk hlt
    have hline := (hspan k hk hlt.le).2
    rwa [if_neg hlt.ne, dropReturn_eq_self_iff] at hline
  · rintro ⟨hne, hreturn, hgreatest⟩
    rw [shownSpans, sourceSpans, if_neg hne, map_range'_eq_map_range'_iff]
    refine ⟨rfl, fun k hk hlt => ?_⟩
    have hmin : min k Position.greatest = k := by omega
    have hline : (if k = stop then sourceLine source k else dropReturn (sourceLine source k)) =
        sourceLine source k := by
      by_cases hend : k = stop
      · rw [if_pos hend]
      · rw [if_neg hend, dropReturn_eq_self_iff]
        exact hreturn k hk (by omega)
    rw [hmin, hline]

theorem number_of_marked_shownSpans (source : String) {line start stop : Nat}
    (hstart : 1 ≤ start) (hfirst : start ≤ line) (hlast : line ≤ stop)
    (hgreatest : stop ≤ Position.greatest) :
    ((shownSpans source line start stop).filter (·.marked)).map (·.number) =
      if line = stop ∧ sourceLine source stop = [] then [] else [line] := by
  rw [shownSpans]
  generalize hend : (if sourceLine source stop = [] then stop - 1 else stop) = last
  have hle : last ≤ stop := by
    rw [← hend]
    split <;> omega
  have hmin (k : Nat) (hk : k ∈ List.range' start (last + 1 - start)) :
      min k Position.greatest = k := by
    rw [List.mem_range'_1] at hk
    omega
  have hmem : line ∈ List.range' start (last + 1 - start) ↔
      ¬(line = stop ∧ sourceLine source stop = []) := by
    rw [List.mem_range'_1, ← hend]
    split <;> rename_i hempty <;> simp [hempty] <;> omega
  have hmarked : (List.range' start (last + 1 - start)).filter (· = line) =
      if line = stop ∧ sourceLine source stop = [] then [] else [line] := by
    rw [List.filter_eq, (List.nodup_range' 1).count]
    simp only [hmem, ite_not]
    split <;> rfl
  have hsame : (List.range' start (last + 1 - start)).filter
      (fun k => decide (min k Position.greatest = line)) =
        (List.range' start (last + 1 - start)).filter (· = line) :=
    List.filter_congr fun k hk => by rw [hmin k hk]
  have hline : min line Position.greatest = line := by omega
  rw [List.filter_map, List.map_map]
  simp only [Function.comp_def, hsame, hmarked]
  split <;> simp [hline]

end Html

namespace HighlighterCache

open Html Snippet

variable {c : HighlighterCache (List Language)}

theorem htmlOf_cut {source : String} {line context : Nat} {snippet : Snippet}
    (hfirst : 1 ≤ line) (hcount : line ≤ (lines source.toList).length)
    (hcut : Snippet.cut? source line context = some snippet) (hshows : snippet.shows = true)
    (themes : Themes) (language : Language) :
    let start := max 1 (line - context)
    let stop := min (lines source.toList).length (line + context)
    htmlOf themes ⟨some snippet, language⟩ =
      some (page ⟨language, themes, start, some line⟩ (shownSpans source line start stop)) := by
  intro start stop
  have hstart : 1 ≤ start := Nat.le_max_left _ _
  have hstop : start ≤ stop := by omega
  rw [Snippet.cut?_eq hfirst hcount, Option.some.injEq] at hcut
  subst hcut
  rw [htmlOf, Option.filter_some, if_pos hshows, Option.map_some, render_eq_page,
    String.toList_ofList, Snippet.lines_joinLines_window source hstart hstop, capped_map_range']
  simp only [shownSpans, Option.some.injEq, eq_comm (a := line)]
  rfl

/-- Both frames show the lines of their window.  They are those of the source if and only if the
last one has characters, no other ends in a return, and the numbers suffice; and one line is marked
unless the error is on a last line that is empty. -/
theorem frames_of_cut (hc : c.IsHtml) (hready : c.IsReady) {source : String} {line : Nat}
    (hfirst : 1 ≤ line) (hcount : line ≤ (lines source.toList).length) (context : Nat)
    (language : Language) (other : FrameRequest) :
    let start := max 1 (line - context)
    let stop := min (lines source.toList).length (line + context)
    let shown := shownSpans source line start stop
    let markup := page ⟨language, c.themes, start, some line⟩ shown
    ∃ snippet, Snippet.cut? source line context = some snippet ∧
      (snippet.shows = true →
        (c.frames ⟨some snippet, language⟩ other).1.authored = some markup ∧
        (c.frames other ⟨some snippet, language⟩).1.compiled = some markup) ∧
      (shown = sourceSpans source line start stop ↔
        sourceLine source stop ≠ [] ∧
          (∀ k, start ≤ k → k < stop → (sourceLine source k).getLast? ≠ some '\r') ∧
          stop ≤ Position.greatest) ∧
      (stop ≤ Position.greatest → (shown.filter (·.marked)).map (·.number) =
        if line = stop ∧ sourceLine source stop = [] then [] else [line]) := by
  intro start stop shown markup
  have hstart : 1 ≤ start := Nat.le_max_left _ _
  have hline : start ≤ line := by omega
  have hstop : line ≤ stop := by omega
  have hsame := shownSpans_eq_sourceSpans_iff source line hstart (hline.trans hstop)
  have hmarked := number_of_marked_shownSpans source hstart hline hstop
  have hcut := cut?_eq hfirst hcount context
  have hframes : ∀ snippet : Snippet, cut? source line context = some snippet →
      snippet.shows = true →
        (c.frames ⟨some snippet, language⟩ other).1.authored = some markup ∧
        (c.frames other ⟨some snippet, language⟩).1.compiled = some markup := by
    intro snippet hcut hshows
    have hmarkup := htmlOf_cut hfirst hcount hcut hshows c.themes language
    rw [hc.frames hready, hc.frames hready]
    exact ⟨hmarkup, hmarkup⟩
  exact ⟨_, hcut, hframes _ hcut, hsame, hmarked⟩

theorem frames_of_cut_three_lines :
    let c : HighlighterCache (List Language) := ⟨Html.factory, {}, 0, none, []⟩
    let source := "let a\r\nlet b\n\nlet c"
    c.IsHtml ∧ c.IsReady ∧ 2 ≤ (lines source.toList).length ∧
      ∃ snippet, Snippet.cut? source 2 2 = some snippet ∧ snippet.shows = true ∧
        (c.frames ⟨some snippet, .javaScript⟩ ⟨none, .text⟩).1.authored =
          some (page ⟨.javaScript, {}, 1, some 2⟩ (sourceSpans source 2 1 4)) := by
  intro c source
  have hc : c.IsHtml := isHtml_fresh {}
  have hready : c.IsReady := fun _ => by decide
  have hcount : 2 ≤ (lines source.toList).length := by decide
  have hstart : max 1 (2 - 2) = 1 := rfl
  have hstop : min (lines source.toList).length (2 + 2) = 4 := by decide
  have hmain := frames_of_cut hc hready (by decide) hcount 2 .javaScript ⟨none, .text⟩
  simp only [hstart, hstop] at hmain
  obtain ⟨snippet, hcut, hframes, hsame, -⟩ := hmain
  have hshown : shownSpans source 2 1 4 = sourceSpans source 2 1 4 := by
    rw [hsame]
    decide
  have hsnippet : cut? source 2 2 = some ⟨"let a\nlet b\n\nlet c", 1, 2⟩ := by decide
  have hshows : snippet.shows = true := by
    obtain rfl := Option.some.inj (hcut.symm.trans hsnippet)
    decide
  rw [hshown] at hframes
  exact ⟨hc, hready, hcount, snippet, hcut, hshows, (hframes hshows).1⟩

/-- An error on an empty line at the end of the window is neither shown nor marked. -/
theorem frames_of_cut_empty_last_line :
    ¬∀ (source : String) (line context : Nat) (language : Language) (snippet : Snippet),
      1 ≤ line → line ≤ (lines source.toList).length →
      Snippet.cut? source line context = some snippet → snippet.shows = true →
      let start := max 1 (line - context)
      let stop := min (lines source.toList).length (line + context)
      (frames ⟨Html.factory, {}, 0, none, []⟩ ⟨some snippet, language⟩
          ⟨none, .text⟩).1.authored =
        some (page ⟨language, {}, start, some line⟩ (sourceSpans source line start stop)) := by
  intro hall
  have hlost := hall "a\n\n" 2 1 .text ⟨"a\n", 1, 2⟩ (by decide) (by decide) (by decide)
    (by decide)
  revert hlost
  decide +kernel

end HighlighterCache

end ErrorOrigin
