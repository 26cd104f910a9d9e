/-!
# Positions

A file with a line and a column, both counted from one.  Zero stands for an unknown line or column.
-/

namespace ErrorOrigin

structure Position where
  file : String
  line : Nat
  column : Nat
deriving DecidableEq, Repr

namespace Position

/-- The greatest line and the greatest column that are known to be reported. -/
def greatest : Nat := 4294967295

/-- A position nothing is known about. -/
def unknown : Position := ⟨"", 0, 0⟩

/-- The position with these coordinates, if it names a file and counts from one. -/
def usable? (file : String) (line column : Int) : Option Position :=
  if file ≠ "" ∧ 0 < line ∧ line ≤ greatest ∧ 0 < column ∧ column ≤ greatest then
    some ⟨file, line.toNat, column.toNat⟩
  else none

theorem usable?_eq_some_iff {file : String} {line column : Int} {p : Position} :
    usable? file line column = some p ↔
      p = ⟨file, line.toNat, column.toNat⟩ ∧ file ≠ "" ∧ 0 < line ∧ line ≤ greatest ∧
        0 < column ∧ column ≤ greatest := by
  unfold usable?
  split <;> simp_all [eq_comm]

end Position

end ErrorOrigin
