import ErrorOrigin.PipelineHint
import ErrorOrigin.Stack.Frame
import Mathlib.Tactic

/-!
# Positions of frames

A frame and a hint each leave parts of a position open.  Here is what it means that all parts are
there and usable, and that a position is that of the first frame of a stack which has one.
-/

namespace ErrorOrigin

/-- The position names a file and counts from one. -/
structure Position.IsUsable (p : Position) : Prop where
  file_ne : p.file ≠ ""
  one_le_line : 1 ≤ p.line
  line_le : p.line ≤ greatest
  one_le_column : 1 ≤ p.column
  column_le : p.column ≤ greatest

theorem Position.usable?_eq_some_iff_isUsable {file : String} {line column : Int}
    {p : Position} :
    usable? file line column = some p ↔
      file = p.file ∧ line = p.line ∧ column = p.column ∧ p.IsUsable := by
  rw [usable?_eq_some_iff]
  constructor
  · rintro ⟨rfl, hfile, hline, hlineMax, hcolumn, hcolumnMax⟩
    have hlineNat : ((line.toNat : Nat) : Int) = line := Int.toNat_of_nonneg hline.le
    have hcolumnNat : ((column.toNat : Nat) : Int) = column := Int.toNat_of_nonneg hcolumn.le
    refine ⟨rfl, hlineNat.symm, hcolumnNat.symm, hfile, ?_, ?_, ?_, ?_⟩ <;> dsimp only <;> omega
  · rintro ⟨rfl, rfl, rfl, hp⟩
    have hline := hp.one_le_line
    have hlineMax := hp.line_le
    have hcolumn := hp.one_le_column
    have hcolumnMax := hp.column_le
    refine ⟨by simp, hp.file_ne, ?_, ?_, ?_, ?_⟩ <;> omega

namespace Stack

def Frame.IsAt (f : Frame) (p : Position) : Prop :=
  f.file = some p.file ∧ f.line = some (p.line : Int) ∧ f.column = some (p.column : Int) ∧
    p.IsUsable

theorem Frame.position?_eq_some_iff {f : Frame} {p : Position} :
    f.position? = some p ↔ f.IsAt p := by
  simp only [position?, IsAt, Option.bind_eq_bind, Option.bind_eq_some_iff,
    Position.usable?_eq_some_iff_isUsable]
  constructor
  · rintro ⟨_, hfile, _, hline, _, hcolumn, rfl, rfl, rfl, hp⟩
    exact ⟨hfile, hline, hcolumn, hp⟩
  · rintro ⟨hfile, hline, hcolumn, hp⟩
    exact ⟨_, hfile, _, hline, _, hcolumn, rfl, rfl, rfl, hp⟩

theorem Frame.position?_eq_none_iff {f : Frame} :
    f.position? = none ↔ ∀ p, ¬f.IsAt p := by
  rw [Option.eq_none_iff_forall_ne_some]
  exact forall_congr' fun p => not_congr position?_eq_some_iff

theorem Frame.moveTo_of_isAt {f : Frame} {p : Position} (hf : f.IsAt p) : f.moveTo p = f := by
  obtain ⟨hfile, hline, hcolumn, _⟩ := hf
  rw [moveTo, ← hfile, ← hline, ← hcolumn]

theorem Frame.eq_of_moveTo_eq_self {f : Frame} {p q : Position} (hf : f.IsAt p)
    (hq : f.moveTo q = f) : q = p := by
  obtain ⟨hfile, hline, hcolumn, _⟩ := hf
  rw [← hq] at hfile hline hcolumn
  cases q
  cases p
  simp only [moveTo, Option.some.injEq, Int.natCast_inj] at hfile hline hcolumn
  rw [hfile, hline, hcolumn]

/-- The first frame that is anywhere is at this position. -/
def IsFirstAt (frames : List Frame) (p : Position) : Prop :=
  ∃ before f after, frames = before ++ f :: after ∧ (∀ g ∈ before, ∀ q, ¬g.IsAt q) ∧ f.IsAt p

theorem firstPosition?_eq_some_iff {frames : List Frame} {p : Position} :
    firstPosition? frames = some p ↔ IsFirstAt frames p := by
  rw [firstPosition?, List.findSome?_eq_some_iff]
  constructor
  · rintro ⟨before, f, after, hframes, hf, hbefore⟩
    exact ⟨before, f, after, hframes,
      fun g hg => Frame.position?_eq_none_iff.mp (hbefore g hg),
      Frame.position?_eq_some_iff.mp hf⟩
  · rintro ⟨before, f, after, hframes, hbefore, hf⟩
    exact ⟨before, f, after, hframes, Frame.position?_eq_some_iff.mpr hf,
      fun g hg => Frame.position?_eq_none_iff.mpr (hbefore g hg)⟩

theorem firstPosition?_eq_none_iff {frames : List Frame} :
    firstPosition? frames = none ↔ ∀ f ∈ frames, ∀ p, ¬f.IsAt p := by
  rw [firstPosition?, List.findSome?_eq_none_iff]
  exact forall₂_congr fun _ _ => Frame.position?_eq_none_iff

end Stack

def PipelineHint.IsAt (h : PipelineHint) (p : Position) : Prop :=
  h.file = some p.file ∧ h.line = some p.line ∧ h.column = some p.column ∧ p.IsUsable

theorem PipelineHint.position?_eq_some_iff {h : PipelineHint} {p : Position} :
    h.position? = some p ↔ h.IsAt p := by
  simp only [position?, IsAt, Option.bind_eq_bind, Option.bind_eq_some_iff,
    Position.usable?_eq_some_iff_isUsable, Nat.cast_inj]
  constructor
  · rintro ⟨_, hfile, _, hline, _, hcolumn, rfl, rfl, rfl, hp⟩
    exact ⟨hfile, hline, hcolumn, hp⟩
  · rintro ⟨hfile, hline, hcolumn, hp⟩
    exact ⟨_, hfile, _, hline, _, hcolumn, rfl, rfl, rfl, hp⟩

theorem PipelineHint.position?_eq_none_iff {h : PipelineHint} :
    h.position? = none ↔ ∀ p, ¬h.IsAt p := by
  rw [Option.eq_none_iff_forall_ne_some]
  exact forall_congr' fun p => not_congr position?_eq_some_iff

end ErrorOrigin
