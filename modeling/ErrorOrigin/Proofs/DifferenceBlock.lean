import ErrorOrigin.Hydration
import ErrorOrigin.Proofs.CodeFrameLines
import ErrorOrigin.Proofs.TextCuts
import Mathlib.Data.List.DropRight
import Mathlib.Tactic

/-!
# The block of a difference

The lines from the first to the last that shows a difference are determined by the message: nothing
before and nothing after them shows one, and they begin and end with such a line.  A carriage return
at the end of a line changes neither what the line shows nor what is kept of it, so the block is
that of the pieces between line feeds, and what stands on lines of its own around the message stays
outside.
-/

namespace ErrorOrigin.Hydration

open Text

/-- The first thing on the line is a plus or a minus with a space behind it. -/
def ShowsDifference (line : List Char) : Prop :=
  ['+', ' '] <+: trimStart line ∨ ['-', ' '] <+: trimStart line

instance (line : List Char) : Decidable (ShowsDifference line) :=
  inferInstanceAs (Decidable (_ ∨ _))

theorem isDiffLine_iff_showsDifference {line : List Char} :
    isDiffLine line = true ↔ ShowsDifference line := by
  unfold isDiffLine ShowsDifference
  rcases trimStart line with _ | ⟨a, _ | ⟨b, rest⟩⟩
  · simp
  · simp [List.cons_prefix_cons]
  · simp only [List.cons_prefix_cons, List.nil_prefix, and_true]
    split <;> simp_all [eq_comm]

theorem not_isDiffLine_iff {line : List Char} :
    (!isDiffLine line) = true ↔ ¬ShowsDifference line := by
  rw [← isDiffLine_iff_showsDifference, Bool.not_eq_true', Bool.not_eq_true]

def Mentions (message : String) : Prop :=
  ∃ word, word <:+: message.toList ∧ word.map Char.toLower = "hydrat".toList

theorem mentions_iff {message : String} : mentions message.toList = true ↔ Mentions message := by
  rw [mentions, occurs_iff, List.infix_map_iff]
  simp only [Mentions, eq_comm]

theorem Mentions.of_infix {message longer : String} (hmessage : Mentions message)
    (hlonger : message.toList <:+: longer.toList) : Mentions longer := by
  obtain ⟨word, hword, hlower⟩ := hmessage
  exact ⟨word, hword.trans hlonger, hlower⟩

/-! ## Blocks -/

/-- The lines from the first to the last that shows a difference. -/
def IsBlock (ls shown : List (List Char)) : Prop :=
  ∃ before after, ls = before ++ shown ++ after ∧
    (∀ l ∈ before, ¬ShowsDifference l) ∧ (∀ l ∈ after, ¬ShowsDifference l) ∧
    (∃ l ∈ shown.head?, ShowsDifference l) ∧ ∃ l ∈ shown.getLast?, ShowsDifference l

theorem block_eq_rdropWhile (ls : List (List Char)) :
    block ls = (ls.dropWhile fun l => !isDiffLine l).rdropWhile fun l => !isDiffLine l :=
  rfl

theorem block_append_left {before : List (List Char)}
    (hbefore : ∀ l ∈ before, ¬ShowsDifference l) (ls : List (List Char)) :
    block (before ++ ls) = block ls := by
  have hskip : ∀ l ∈ before, (!isDiffLine l) = true := fun l hl =>
    not_isDiffLine_iff.mpr (hbefore l hl)
  rw [block, List.dropWhile_append_of_pos hskip]
  rfl

theorem block_append_right {after : List (List Char)}
    (hafter : ∀ l ∈ after, ¬ShowsDifference l) (ls : List (List Char)) :
    block (ls ++ after) = block ls := by
  have hskip : ∀ l ∈ after, (!isDiffLine l) = true := fun l hl =>
    not_isDiffLine_iff.mpr (hafter l hl)
  have hback : ∀ l ∈ after.reverse, (!isDiffLine l) = true := fun l hl =>
    hskip l (List.mem_reverse.mp hl)
  rw [block, List.dropWhile_append]
  split
  · rename_i hnone
    have hls : ls.dropWhile (fun l => !isDiffLine l) = [] := List.isEmpty_iff.mp hnone
    have hrest : after.dropWhile (fun l => !isDiffLine l) = [] :=
      List.dropWhile_eq_nil_iff.mpr hskip
    rw [block, hls, hrest]
  · rw [List.reverse_append, List.dropWhile_append_of_pos hback]
    rfl

/-- A list that begins and ends with a difference is its own block. -/
theorem block_eq_self {shown : List (List Char)} (hhead : ∃ l ∈ shown.head?, ShowsDifference l)
    (hlast : ∃ l ∈ shown.getLast?, ShowsDifference l) : block shown = shown := by
  obtain ⟨first, hfirst, hshows⟩ := hhead
  obtain ⟨rest, rfl⟩ := List.head?_eq_some_iff.mp hfirst
  have hfront : (first :: rest).dropWhile (fun l => !isDiffLine l) = first :: rest := by
    simp [isDiffLine_iff_showsDifference.mpr hshows]
  rw [block_eq_rdropWhile, hfront, List.rdropWhile_eq_self_iff]
  intro hne
  obtain ⟨last, hend, hshows⟩ := hlast
  rw [List.getLast?_eq_some_getLast hne, Option.mem_some_iff] at hend
  rw [hend, isDiffLine_iff_showsDifference.mpr hshows]
  decide

theorem IsBlock.block_eq {ls shown : List (List Char)} (h : IsBlock ls shown) :
    block ls = shown := by
  obtain ⟨before, after, rfl, hbefore, hafter, hhead, hlast⟩ := h
  rw [block_append_right hafter, block_append_left hbefore, block_eq_self hhead hlast]

theorem isBlock_block {ls : List (List Char)} (hls : ∃ l ∈ ls, ShowsDifference l) :
    IsBlock ls (block ls) := by
  let p : List Char → Bool := fun l => !isDiffLine l
  have hp (l : List Char) : p l = true ↔ ¬ShowsDifference l := not_isDiffLine_iff
  obtain ⟨first, rest, hfront⟩ : ∃ first rest, ls.dropWhile p = first :: rest := by
    apply List.exists_cons_of_ne_nil
    intro hnil
    obtain ⟨l, hl, hshows⟩ := hls
    exact (hp l).mp (List.dropWhile_eq_nil_iff.mp hnil l hl) hshows
  have hfirst : ShowsDifference first := by
    have hhead := List.head?_dropWhile_not p ls
    rw [hfront] at hhead
    have hnot : ¬p first = true := by simpa using hhead
    rwa [hp, not_not] at hnot
  have hblock : block ls = (first :: rest).rdropWhile p := by
    rw [block_eq_rdropWhile]
    exact congrArg (List.rdropWhile p) hfront
  have hne : (first :: rest).rdropWhile p ≠ [] := by
    rw [ne_eq, List.rdropWhile_eq_nil_iff]
    intro hall
    exact (hp first).mp (hall first List.mem_cons_self) hfirst
  refine ⟨ls.takeWhile p, (first :: rest).rtakeWhile p, ?_, ?_, ?_, ?_, ?_⟩
  · rw [hblock, List.append_assoc, List.rdropWhile_append_rtakeWhile, ← hfront,
      List.takeWhile_append_dropWhile]
  · intro l hl
    exact (hp l).mp (List.mem_takeWhile_imp hl)
  · intro l hl
    exact (hp l).mp (List.mem_rtakeWhile_imp hl)
  · obtain ⟨other, others, hcons⟩ := List.exists_cons_of_ne_nil hne
    have hprefix := List.rdropWhile_prefix p (first :: rest)
    rw [hcons, List.cons_prefix_cons] at hprefix
    rw [hblock, hcons]
    exact ⟨other, rfl, hprefix.1 ▸ hfirst⟩
  · have hlast := List.rdropWhile_last_not p (first :: rest) hne
    rw [hp, not_not] at hlast
    rw [hblock, List.getLast?_eq_some_getLast hne]
    exact ⟨_, rfl, hlast⟩

theorem IsBlock.filter_sublist {ls shown : List (List Char)} (h : IsBlock ls shown) :
    (ls.filter fun l => ShowsDifference l).Sublist shown := by
  obtain ⟨before, after, rfl, hbefore, hafter, -⟩ := h
  have hnone (outside : List (List Char)) (houtside : ∀ l ∈ outside, ¬ShowsDifference l) :
      (outside.filter fun l => ShowsDifference l) = [] := by
    rw [List.filter_eq_nil_iff]
    intro l hl
    simpa using houtside l hl
  rw [List.filter_append, List.filter_append, hnone before hbefore, hnone after hafter,
    List.nil_append, List.append_nil]
  exact List.filter_sublist

theorem block_eq_nil_iff {ls : List (List Char)} :
    block ls = [] ↔ ∀ l ∈ ls, ¬ShowsDifference l := by
  constructor
  · intro hnil l hl hshows
    obtain ⟨_, _, _, _, _, ⟨first, hfirst, _⟩, _⟩ := isBlock_block ⟨l, hl, hshows⟩
    rw [hnil] at hfirst
    cases hfirst
  · intro hnone
    have happend := block_append_left hnone []
    rw [List.append_nil] at happend
    exact happend

theorem trimEnd_dropReturn (l : List Char) : trimEnd (dropReturn l) = trimEnd l := by
  rw [dropReturn]
  split
  · rename_i hlast
    have hblank : isBlank '\r' = true := by decide
    obtain ⟨front, rfl⟩ := List.getLast?_eq_some_iff.mp hlast
    simp [trimEnd, hblank]
  · rfl

theorem showsDifference_dropReturn {l : List Char} :
    ShowsDifference (dropReturn l) ↔ ShowsDifference l := by
  rw [dropReturn]
  split
  · rename_i hlast
    obtain ⟨front, rfl⟩ := List.getLast?_eq_some_iff.mp hlast
    have hblank : isBlank '\r' = true := by decide
    have hsign (c : Char) (hc : isBlank c = false) :
        [c, ' '] <+: trimStart (front ++ ['\r']) ↔ [c, ' '] <+: trimStart front := by
      rw [trimStart, List.dropWhile_append]
      split
      · rename_i hnone
        rw [trimStart, List.isEmpty_iff.mp hnone]
        simp [hblank]
      · rw [List.prefix_concat_iff, or_iff_right]
        · rfl
        · intro hsame
          have hend := congrArg List.getLast? hsame
          simp at hend
    rw [List.dropLast_concat, ShowsDifference, ShowsDifference, hsign '+' (by decide),
      hsign '-' (by decide)]
  · rfl

/-- All that matters of a line: whether it shows a difference, and what is kept of it. -/
def look (l : List Char) : Bool × List Char :=
  (isDiffLine l, trimEnd l)

theorem look_dropReturn (l : List Char) : look (dropReturn l) = look l := by
  rw [look, look, trimEnd_dropReturn, Prod.mk.injEq, Bool.eq_iff_iff]
  simp only [isDiffLine_iff_showsDifference, showsDifference_dropReturn, and_self]

theorem map_trimEnd_block_congr {ls ls' : List (List Char)} (hlook : ls.map look = ls'.map look) :
    (block ls).map trimEnd = (block ls').map trimEnd := by
  have hblock (ls : List (List Char)) : (block ls).map look =
      (((ls.map look).dropWhile fun v => !v.1).reverse.dropWhile fun v => !v.1).reverse := by
    rw [List.dropWhile_map, ← List.map_reverse, List.dropWhile_map, ← List.map_reverse]
    rfl
  have hkept (ls : List (List Char)) :
      (block ls).map trimEnd = ((block ls).map look).map Prod.snd := by
    rw [List.map_map]
    rfl
  rw [hkept, hkept, hblock, hblock, hlook]

/-- The pieces between line feeds are the lines, and perhaps an empty one behind them. -/
theorem exists_map_look_splitOn (s : List Char) :
    ∃ blanks, (∀ l ∈ blanks, ¬ShowsDifference l) ∧
      (s.splitOn '\n').map look = (lines s ++ blanks).map look := by
  obtain ⟨front, last, hsplit⟩ : ∃ front last, s.splitOn '\n' = front ++ [last] :=
    ⟨_, _, (List.dropLast_append_getLast (List.splitOn_ne_nil '\n' s)).symm⟩
  have hlines : lines s = front.map dropReturn ++ if last = [] then [] else [last] := by
    rw [← reread_concat, ← hsplit]
    rfl
  have hfront : (front.map dropReturn).map look = front.map look := by
    rw [List.map_map]
    exact List.map_congr_left fun l _ => look_dropReturn l
  by_cases hlast : last = []
  · refine ⟨[[]], by decide, ?_⟩
    rw [hsplit, hlines, if_pos hlast, List.append_nil, List.map_append, List.map_append, hfront,
      hlast]
  · refine ⟨[], by simp, ?_⟩
    rw [hsplit, hlines, if_neg hlast, List.append_nil, List.map_append, List.map_append, hfront]

def kept (s : List Char) : List (List Char) :=
  (block (lines s)).map trimEnd

theorem kept_eq (s : List Char) : kept s = (block (s.splitOn '\n')).map trimEnd := by
  obtain ⟨blanks, hblanks, hlook⟩ := exists_map_look_splitOn s
  rw [map_trimEnd_block_congr hlook, block_append_right hblanks, kept]

theorem kept_eq_nil_iff {s : List Char} :
    kept s = [] ↔ ∀ l ∈ lines s, ¬ShowsDifference l := by
  rw [kept, List.map_eq_nil_iff, block_eq_nil_iff]

theorem forall_splitOn_iff {s : List Char} :
    (∀ l ∈ s.splitOn '\n', ¬ShowsDifference l) ↔ ∀ l ∈ lines s, ¬ShowsDifference l := by
  rw [← kept_eq_nil_iff, kept_eq, List.map_eq_nil_iff, block_eq_nil_iff]

theorem kept_before {s : List Char} (hs : ∀ l ∈ lines s, ¬ShowsDifference l) (t : List Char) :
    kept (s ++ '\n' :: t) = kept t := by
  rw [kept_eq, List.splitOn_append_cons_self, block_append_left (forall_splitOn_iff.mpr hs),
    ← kept_eq]

theorem kept_after {t : List Char} (ht : ∀ l ∈ lines t, ¬ShowsDifference l) (s : List Char) :
    kept (s ++ '\n' :: t) = kept s := by
  rw [kept_eq, List.splitOn_append_cons_self, block_append_right (forall_splitOn_iff.mpr ht),
    ← kept_eq]

theorem kept_append_of_front {before : List Char}
    (hown : before = [] ∨ before.getLast? = some '\n')
    (hbefore : ∀ l ∈ lines before, ¬ShowsDifference l) (s : List Char) :
    kept (before ++ s) = kept s := by
  rcases hown with rfl | hend
  · rw [List.nil_append]
  · obtain ⟨front, rfl⟩ := List.getLast?_eq_some_iff.mp hend
    have hfront : ∀ l ∈ lines front, ¬ShowsDifference l := by
      rw [← forall_splitOn_iff] at hbefore ⊢
      intro l hl
      apply hbefore
      rw [List.splitOn_append_cons_self]
      exact List.mem_append_left _ hl
    rw [List.append_assoc]
    exact kept_before hfront s

theorem kept_append_of_back {s after : List Char}
    (hown : after = [] ∨ after.head? = some '\n' ∨ s.getLast? = some '\n')
    (hafter : ∀ l ∈ lines after, ¬ShowsDifference l) : kept (s ++ after) = kept s := by
  rcases hown with rfl | hbegin | hend
  · rw [List.append_nil]
  · obtain ⟨rest, rfl⟩ := List.head?_eq_some_iff.mp hbegin
    have hrest : ∀ l ∈ lines rest, ¬ShowsDifference l := by
      rw [← forall_splitOn_iff] at hafter ⊢
      intro l hl
      apply hafter
      rw [← List.nil_append ('\n' :: rest), List.splitOn_append_cons_self]
      exact List.mem_append_right _ hl
    exact kept_after hrest s
  · obtain ⟨front, rfl⟩ := List.getLast?_eq_some_iff.mp hend
    have hnone : ∀ l ∈ lines [], ¬ShowsDifference l := by simp
    rw [List.append_assoc, kept_after hnone front]
    exact kept_after hafter front

/-! ## The difference -/

theorem diff?_eq_some_iff {message d : String} :
    diff? message = some d ↔
      Mentions message ∧ kept message.toList ≠ [] ∧
        d.toList = joinLines (kept message.toList) := by
  have hfound : block (lines message.toList) ≠ [] ↔ kept message.toList ≠ [] := by
    rw [kept, ne_eq, ne_eq, List.map_eq_nil_iff]
  unfold diff?
  simp only [mentions_iff, hfound, Option.ite_none_right_eq_some, Option.some.injEq, and_assoc]
  rw [and_congr_right_iff]
  intro _
  rw [and_congr_right_iff]
  intro _
  constructor
  · rintro rfl
    exact String.toList_ofList
  · intro hd
    rw [← String.toList_inj, String.toList_ofList, hd]
    rfl

theorem diff?_eq_none_iff {message : String} :
    diff? message = none ↔
      ¬Mentions message ∨ ∀ l ∈ lines message.toList, ¬ShowsDifference l := by
  rw [← kept_eq_nil_iff]
  constructor
  · intro hnone
    by_contra hboth
    rw [not_or, not_not] at hboth
    have hsome := diff?_eq_some_iff.mpr ⟨hboth.1, hboth.2, String.toList_ofList⟩
    rw [hnone] at hsome
    cases hsome
  · intro hnone
    rw [Option.eq_none_iff_forall_ne_some]
    intro d hd
    obtain ⟨hmentions, hkept, -⟩ := diff?_eq_some_iff.mp hd
    rcases hnone with hnone | hnone
    · exact hnone hmentions
    · exact hkept hnone

theorem mem_trimEnd_of_shown {l : List Char} {c : Char} (hc : c ∈ l) (hshown : isBlank c = false) :
    c ∈ trimEnd l := by
  have hsplit : l.reverse.takeWhile isBlank ++ l.reverse.dropWhile isBlank = l.reverse :=
    List.takeWhile_append_dropWhile
  rw [← List.mem_reverse, ← hsplit, List.mem_append] at hc
  rcases hc with hblank | hkept
  · rw [List.mem_takeWhile_imp hblank] at hshown
    cases hshown
  · exact List.mem_reverse.mpr hkept

theorem trimEnd_subset (l : List Char) : trimEnd l ⊆ l := by
  intro c hc
  exact List.mem_reverse.mp ((List.dropWhile_sublist _).subset (List.mem_reverse.mp hc))

theorem ShowsDifference.exists_shown {l : List Char} (hl : ShowsDifference l) :
    ∃ c ∈ trimEnd l, isBlank c = false := by
  have hsign (c : Char) (hc : isBlank c = false) (hstart : [c, ' '] <+: trimStart l) :
      ∃ c ∈ trimEnd l, isBlank c = false := by
    have hmem : c ∈ l := (List.dropWhile_sublist _).subset (hstart.subset List.mem_cons_self)
    exact ⟨c, mem_trimEnd_of_shown hmem hc, hc⟩
  rcases hl with hplus | hminus
  · exact hsign '+' (by decide) hplus
  · exact hsign '-' (by decide) hminus

theorem IsBlock.exists_shown {ls shown : List (List Char)} (h : IsBlock ls shown) :
    ∃ c ∈ joinLines (shown.map trimEnd), isBlank c = false := by
  obtain ⟨-, -, -, -, -, ⟨first, hfirst, hshows⟩, -⟩ := h
  obtain ⟨rest, rfl⟩ := List.head?_eq_some_iff.mp hfirst
  obtain ⟨c, hc, hshown⟩ := hshows.exists_shown
  refine ⟨c, ?_, hshown⟩
  rw [joinLines, List.map_cons]
  by_cases hrest : rest.map trimEnd = []
  · rwa [hrest, List.intercalate_singleton]
  · rw [List.intercalate_cons_of_ne_nil hrest, List.append_assoc]
    exact List.mem_append_left _ hc

theorem dropReturn_trimEnd (l : List Char) : dropReturn (trimEnd l) = trimEnd l := by
  rw [dropReturn_eq_self_iff, trimEnd, List.getLast?_reverse]
  intro hhead
  exact absurd (head_dropWhile_isBlank l.reverse '\r' hhead) (by decide)

/-- Every kept line is a line of the difference again. -/
theorem lines_joinLines_kept {s : List Char} {shown : List (List Char)}
    (hblock : IsBlock (lines s) shown) :
    lines (joinLines (shown.map trimEnd)) = shown.map trimEnd := by
  obtain ⟨before, after, hlines, -, -, ⟨first, hfirst, -⟩, last, hlast, hshows⟩ := hblock
  obtain ⟨front, rfl⟩ := List.getLast?_eq_some_iff.mp hlast
  have hbreak : ∀ l ∈ (front ++ [last]).map trimEnd, '\n' ∉ l := by
    intro l hl
    obtain ⟨line, hline, rfl⟩ := List.mem_map.mp hl
    have hmem : line ∈ lines s := by
      rw [hlines]
      exact List.mem_append_left _ (List.mem_append_right _ hline)
    exact fun hc => not_mem_of_mem_lines hmem (trimEnd_subset line hc)
  have hne : trimEnd last ≠ [] := by
    obtain ⟨c, hc, -⟩ := hshows.exists_shown
    exact List.ne_nil_of_mem hc
  have hfront : (front.map trimEnd).map dropReturn = front.map trimEnd := by
    rw [List.map_map]
    exact List.map_congr_left fun l _ => dropReturn_trimEnd l
  rw [lines_joinLines (by simp) hbreak, List.map_append, List.map_singleton, reread_concat,
    hfront, if_neg hne]

/-- There is a difference when the message speaks of hydration and a line shows one.  It is the
block from the first such line to the last, so none of them is lost, something is seen of it, and
other text on lines of its own does not change it. -/
theorem diff?_block (message : String) :
    (diff? message = none ↔
      ¬Mentions message ∨ ∀ l ∈ lines message.toList, ¬ShowsDifference l) ∧
    ∀ d, diff? message = some d →
      (∃ shown, (∀ other, IsBlock (lines message.toList) other ↔ other = shown) ∧
        d.toList = ['\n'].intercalate (shown.map trimEnd) ∧
        lines d.toList = shown.map trimEnd) ∧
      (((lines message.toList).filter fun l => ShowsDifference l).map trimEnd).Sublist
        (lines d.toList) ∧
      (∃ c ∈ d.toList, isBlank c = false) ∧
      ∀ before after : String,
        (before = "" ∨ before.toList.getLast? = some '\n') →
        (after = "" ∨ after.toList.head? = some '\n' ∨ message.toList.getLast? = some '\n') →
        (∀ l ∈ lines before.toList, ¬ShowsDifference l) →
        (∀ l ∈ lines after.toList, ¬ShowsDifference l) →
        diff? (before ++ message ++ after) = some d := by
  refine ⟨diff?_eq_none_iff, fun d hd => ?_⟩
  obtain ⟨hmentions, hkept, hdifference⟩ := diff?_eq_some_iff.mp hd
  have hshows : ∃ l ∈ lines message.toList, ShowsDifference l := by
    by_contra hnone
    push Not at hnone
    exact hkept (kept_eq_nil_iff.mpr hnone)
  have hblock := isBlock_block hshows
  have hlines : lines d.toList = (block (lines message.toList)).map trimEnd := by
    rw [hdifference]
    exact lines_joinLines_kept hblock
  have hunique (other : List (List Char)) :
      IsBlock (lines message.toList) other ↔ other = block (lines message.toList) := by
    constructor
    · intro hother
      exact hother.block_eq.symm
    · rintro rfl
      exact hblock
  refine ⟨⟨_, hunique, hdifference, hlines⟩, ?_, ?_, ?_⟩
  · rw [hlines]
    exact hblock.filter_sublist.map trimEnd
  · rw [hdifference]
    exact hblock.exists_shown
  · intro before after hfront hback hbefore hafter
    have hown : before.toList = [] ∨ before.toList.getLast? = some '\n' := by
      rwa [String.toList_eq_nil_iff]
    have hownBehind : after.toList = [] ∨ after.toList.head? = some '\n' ∨
        message.toList.getLast? = some '\n' := by
      rwa [String.toList_eq_nil_iff]
    have hsame : kept (before ++ message ++ after).toList = kept message.toList := by
      rw [String.toList_append, String.toList_append, List.append_assoc,
        kept_append_of_front hown hbefore, kept_append_of_back hownBehind hafter]
    have hinfix : message.toList <:+: (before ++ message ++ after).toList := by
      rw [String.toList_append, String.toList_append]
      exact List.infix_append _ _ _
    rw [diff?_eq_some_iff, hsame]
    exact ⟨hmentions.of_infix hinfix, hkept, hdifference⟩

/-- A spread block with returns at the ends of its lines, between lines that only look similar. -/
theorem diff?_block_of_returns :
    let message :=
      "A tree HYDRATED but did not match:\r\n+ class=\"a\" \r\n\r\n  <span>\n \t- class=\"b\"\r"
    let d := "+ class=\"a\"\n\n  <span>\n \t- class=\"b\""
    let before := "+1 error\r\n -x\n"
    let after := "\n\r\n+\n-- end"
    diff? message = some d ∧ before.toList.getLast? = some '\n' ∧ after.toList.head? = some '\n' ∧
      (∀ l ∈ lines before.toList, ¬ShowsDifference l) ∧
      (∀ l ∈ lines after.toList, ¬ShowsDifference l) ∧
      diff? (before ++ message ++ after) = some d := by
  intro message d before after
  have hd : diff? message = some d := by decide +kernel
  have hfront : before.toList.getLast? = some '\n' := by decide
  have hback : after.toList.head? = some '\n' := by decide
  have hbefore : ∀ l ∈ lines before.toList, ¬ShowsDifference l := by decide
  have hafter : ∀ l ∈ lines after.toList, ¬ShowsDifference l := by decide
  obtain ⟨-, -, -, hsame⟩ := (diff?_block message).2 d hd
  exact ⟨hd, hfront, hback, hbefore, hafter,
    hsame before after (.inr hfront) (.inr (.inl hback)) hbefore hafter⟩

end ErrorOrigin.Hydration
