import ErrorOrigin.Proofs.CodeFrameLines
import Mathlib.Tactic

/-!
# The window of a snippet

A window is bounded by the line, the context and the number of lines there are.  Reckoned with
integers it begins at the context before the line or at the first line, and ends at the context
behind it or at the last.  Machine words give the same window: a difference that would fall below
zero stops there, and a sum of two words of 32 bits has room in one of 64.
-/

namespace ErrorOrigin.Snippet

open Text

/-! ## Words of fixed width -/

def stoppedSub (a b : UInt64) : UInt64 :=
  if b ≤ a then a - b else 0

def stoppedAdd (a b : UInt64) : UInt64 :=
  if a + b < a then 18446744073709551615 else a + b

def narrow? (a : UInt64) : Option UInt32 :=
  if a.toUInt32.toUInt64 = a then some a.toUInt32 else none

/-- The window among lines that are counted from zero, in machine words. -/
def cutInWords? (source : String) (line context : UInt32) : Option Snippet :=
  let ls := lines source.toList
  let index := (line - 1).toUInt64
  if line = 0 ∨ ls.length ≤ index.toNat then none
  else
    let first := stoppedSub index context.toUInt64
    let last := min (stoppedAdd index context.toUInt64).toNat (ls.length - 1)
    let window := (ls.take (last + 1)).drop first.toNat
    (narrow? (first + 1)).map fun start =>
      ⟨String.ofList (joinLines window), start.toNat, line.toNat⟩

theorem toNat_stoppedSub (a b : UInt64) : (stoppedSub a b).toNat = a.toNat - b.toNat := by
  rw [stoppedSub]
  split
  · rename_i hle
    exact UInt64.toNat_sub_of_le a b hle
  · rename_i hlt
    rw [UInt64.le_iff_toNat_le] at hlt
    have hzero : a.toNat - b.toNat = 0 := by omega
    rw [hzero]
    rfl

theorem toNat_stoppedAdd {a b : UInt64} (hroom : a.toNat + b.toNat < 2 ^ 64) :
    (stoppedAdd a b).toNat = a.toNat + b.toNat := by
  have hsum : (a + b).toNat = a.toNat + b.toNat := by
    rw [UInt64.toNat_add, Nat.mod_eq_of_lt hroom]
  have hkept : ¬a + b < a := by
    rw [UInt64.lt_iff_toNat_lt, hsum]
    omega
  rw [stoppedAdd, if_neg hkept, hsum]

theorem narrow?_of_lt {a : UInt64} (ha : a.toNat < 2 ^ 32) :
    (narrow? a).map UInt32.toNat = some a.toNat := by
  have hback : a.toUInt32.toNat = a.toNat := by
    rw [UInt64.toNat_toUInt32, Nat.mod_eq_of_lt ha]
  have hsame : a.toUInt32.toUInt64 = a := by
    rw [← UInt64.toNat_inj, UInt32.toNat_toUInt64, hback]
  rw [narrow?, if_pos hsame, Option.map_some, hback]

/-! ## The window -/

def linesBetween (source : String) (start stop : Nat) : List (List Char) :=
  ((lines source.toList).take stop).drop (start - 1)

theorem cut?_eq_linesBetween {source : String} {line : Nat} (hfirst : 1 ≤ line)
    (hcount : line ≤ (lines source.toList).length) (context : Nat) :
    let start := max 1 (line - context)
    let stop := min (lines source.toList).length (line + context)
    cut? source line context =
      some ⟨String.ofList (joinLines (linesBetween source start stop)), start, line⟩ := by
  intro start stop
  have hwindow : ((lines source.toList).drop (start - 1)).take (stop + 1 - start) =
      linesBetween source start stop := by
    have hsum : start - 1 + (stop + 1 - start) = stop := by omega
    rw [List.take_drop, hsum]
    rfl
  rw [cut?, if_pos ⟨hfirst, hcount⟩]
  simp only [start, stop] at hwindow ⊢
  rw [hwindow]

theorem cut?_eq_none_iff {source : String} {line context : Nat} :
    cut? source line context = none ↔ ¬(1 ≤ line ∧ line ≤ (lines source.toList).length) := by
  rw [cut?]
  simp

theorem toNat_index {line : UInt32} (hline : 1 ≤ line.toNat) :
    (line - 1).toUInt64.toNat = line.toNat - 1 := by
  have hle : 1 ≤ line := UInt32.le_iff_toNat_le.mpr hline
  rw [UInt32.toNat_toUInt64, UInt32.toNat_sub_of_le line 1 hle]
  rfl

theorem cutInWords?_of_inside {source : String} {line : UInt32} (hfirst : 1 ≤ line.toNat)
    (hcount : line.toNat ≤ (lines source.toList).length) (context : UInt32) :
    let start := max 1 (line.toNat - context.toNat)
    let stop := min (lines source.toList).length (line.toNat + context.toNat)
    cutInWords? source line context =
      some ⟨String.ofList (joinLines (linesBetween source start stop)), start, line.toNat⟩ := by
  intro start stop
  have hline := line.toNat_lt
  have hcontext := context.toNat_lt
  have hindex := toNat_index hfirst
  have hinside : ¬(line = 0 ∨ (lines source.toList).length ≤ (line - 1).toUInt64.toNat) := by
    rw [hindex, not_or]
    refine ⟨?_, by omega⟩
    rintro rfl
    exact absurd hfirst (by decide)
  let first := stoppedSub (line - 1).toUInt64 context.toUInt64
  have hbegin : first.toNat = start - 1 := by
    have hsub : first.toNat = line.toNat - 1 - context.toNat := by
      simp only [first]
      rw [toNat_stoppedSub, hindex, UInt32.toNat_toUInt64]
    omega
  have hnext : (first + 1).toNat = start := by
    have hone : (1 : UInt64).toNat = 1 := rfl
    rw [UInt64.toNat_add, hone, hbegin]
    omega
  have hend : min (stoppedAdd (line - 1).toUInt64 context.toUInt64).toNat
      ((lines source.toList).length - 1) + 1 = stop := by
    have hroom : (line - 1).toUInt64.toNat + context.toUInt64.toNat < 2 ^ 64 := by
      rw [hindex, UInt32.toNat_toUInt64]
      omega
    rw [toNat_stoppedAdd hroom, hindex, UInt32.toNat_toUInt64]
    omega
  have hnarrow : (narrow? (first + 1)).map UInt32.toNat = some start := by
    rw [narrow?_of_lt (by omega), hnext]
  obtain ⟨word, hword, hstart⟩ := Option.map_eq_some_iff.mp hnarrow
  rw [cutInWords?, if_neg hinside]
  simp only [hend]
  change (narrow? (first + 1)).map _ = _
  rw [hword, Option.map_some, hstart, hbegin]
  rfl

theorem cut?_toNat (source : String) (line context : UInt32) :
    cut? source line.toNat context.toNat = cutInWords? source line context := by
  by_cases hinside : 1 ≤ line.toNat ∧ line.toNat ≤ (lines source.toList).length
  · rw [cut?_eq_linesBetween hinside.1 hinside.2, cutInWords?_of_inside hinside.1 hinside.2]
  · have houtside : line = 0 ∨ (lines source.toList).length ≤ (line - 1).toUInt64.toNat := by
      by_cases hfirst : 1 ≤ line.toNat
      · rw [toNat_index hfirst]
        omega
      · refine .inl (UInt32.toNat_inj.mp ?_)
        change line.toNat = 0
        omega
    rw [cut?_eq_none_iff.mpr hinside, cutInWords?, if_pos houtside]

theorem linesBetween_getElem? {source : String} {start stop number : Nat} (hstart : 1 ≤ start)
    (hfirst : start ≤ number) (hlast : number ≤ stop) :
    (linesBetween source start stop)[number - start]? = (lines source.toList)[number - 1]? := by
  have hindex : start - 1 + (number - start) = number - 1 := by omega
  rw [linesBetween, List.getElem?_drop, hindex, List.getElem?_take_of_lt (by omega)]

theorem length_linesBetween {source : String} {start stop : Nat} (hstart : 1 ≤ start)
    (hstop : stop ≤ (lines source.toList).length) :
    (linesBetween source start stop).length = stop + 1 - start := by
  rw [linesBetween, List.length_drop, List.length_take, Nat.min_eq_left hstop]
  omega

theorem splitOn_joinLines_linesBetween {source : String} {start stop : Nat} (hstart : 1 ≤ start)
    (hle : start ≤ stop) (hstop : stop ≤ (lines source.toList).length) :
    (joinLines (linesBetween source start stop)).splitOn '\n' =
      linesBetween source start stop := by
  have hbreak : ∀ l ∈ linesBetween source start stop, '\n' ∉ l := fun l hl =>
    not_mem_of_mem_lines (List.mem_of_mem_take (List.mem_of_mem_drop hl))
  apply List.splitOn_intercalate '\n' hbreak
  rw [← List.length_pos_iff, length_linesBetween hstart hstop]
  omega

/-- The snippet shows the lines of the source that the context allows. -/
structure IsWindow (source : String) (line context : Nat) (s : Snippet) : Prop where
  startLine : (s.startLine : Int) = max 1 ((line : Int) - context)
  errorLine : s.errorLine = line
  text : s.text.toList = ['\n'].intercalate
    (linesBetween source s.startLine (min (lines source.toList).length (line + context)))
  count : (s.text.toList.splitOn '\n').length =
    min (lines source.toList).length (line + context) + 1 - s.startLine
  shown : ∀ number, s.startLine ≤ number →
    number ≤ min (lines source.toList).length (line + context) →
    (s.text.toList.splitOn '\n')[number - s.startLine]? = (lines source.toList)[number - 1]?
  errorShown : ∃ l, (s.text.toList.splitOn '\n')[line - s.startLine]? = some l ∧
    (lines source.toList)[line - 1]? = some l

theorem isWindow_of_cut? {source : String} {line context : Nat} {s : Snippet}
    (hcut : cut? source line context = some s) : IsWindow source line context s := by
  have hinside : 1 ≤ line ∧ line ≤ (lines source.toList).length := by
    by_contra houtside
    rw [cut?_eq_none_iff.mpr houtside] at hcut
    cases hcut
  rw [cut?_eq_linesBetween hinside.1 hinside.2, Option.some.injEq] at hcut
  subst hcut
  have hstart : 1 ≤ max 1 (line - context) := Nat.le_max_left _ _
  have hstop : min (lines source.toList).length (line + context) ≤ (lines source.toList).length :=
    Nat.min_le_left _ _
  have hle : max 1 (line - context) ≤ min (lines source.toList).length (line + context) := by
    omega
  have hsplit := splitOn_joinLines_linesBetween hstart hle hstop
  have hshown : ∀ number, max 1 (line - context) ≤ number →
      number ≤ min (lines source.toList).length (line + context) →
      ((joinLines (linesBetween source (max 1 (line - context))
        (min (lines source.toList).length (line + context)))).splitOn '\n')[number -
          max 1 (line - context)]? = (lines source.toList)[number - 1]? := by
    intro number hfirst hlast
    rw [hsplit, linesBetween_getElem? hstart hfirst hlast]
  constructor
  · simp only
    omega
  · rfl
  · exact String.toList_ofList
  · rw [String.toList_ofList, hsplit, length_linesBetween hstart hstop]
  · rw [String.toList_ofList]
    exact hshown
  · have hindex : line - 1 < (lines source.toList).length := by omega
    refine ⟨(lines source.toList)[line - 1], ?_, List.getElem?_eq_getElem hindex⟩
    rw [String.toList_ofList, hshown line (by omega) (by omega), List.getElem?_eq_getElem hindex]

/-- There is a snippet when the source has the line, its window is exact at both ends, and machine
words, from the least to the greatest, make no difference. -/
theorem cut?_window (source : String) :
    (∀ line context : Nat,
      ((∃ s, cut? source line context = some s) ↔
        1 ≤ line ∧ line ≤ (lines source.toList).length) ∧
      ∀ s, cut? source line context = some s → IsWindow source line context s) ∧
    ∀ line context : UInt32,
      cut? source line.toNat context.toNat = cutInWords? source line context := by
  refine ⟨fun line context => ⟨?_, fun s => isWindow_of_cut?⟩, cut?_toNat source⟩
  rw [← Option.isSome_iff_exists, ← not_iff_not, Option.not_isSome_iff_eq_none, cut?_eq_none_iff]

/-- The greatest context there is, around an empty line. -/
theorem cut?_window_of_greatest_context :
    let source := "let a\r\nlet b\n\nlet d\n"
    let s : Snippet := ⟨"let a\nlet b\n\nlet d", 1, 3⟩
    cut? source 3 4294967295 = some s ∧ IsWindow source 3 4294967295 s ∧
      cutInWords? source 3 4294967295 = some s := by
  intro source s
  have hcut : cut? source 3 4294967295 = some s := by decide
  obtain ⟨hwindow, hwords⟩ := cut?_window source
  exact ⟨hcut, (hwindow 3 4294967295).2 s hcut, (hwords 3 4294967295).symm.trans hcut⟩

end ErrorOrigin.Snippet
