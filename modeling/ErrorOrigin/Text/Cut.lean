/-!
# Cutting a text at a separator

Each cut yields the text before the separator and the text after it, or nothing when the separator
does not occur.  The first occurrence is found from the left, the last one from the right.
-/

namespace ErrorOrigin.Text

/-- Cut at the first `sep`. -/
def cut? (sep : Char) : List Char → Option (List Char × List Char)
  | [] => none
  | c :: r =>
    if c = sep then some ([], r)
    else (cut? sep r).map fun (before, after) => (c :: before, after)

/-- Cut at the last `sep`. -/
def cutLast? (sep : Char) (s : List Char) : Option (List Char × List Char) :=
  (cut? sep s.reverse).map fun (after, before) => (before.reverse, after.reverse)

/-- The text without the leading `start`, if it starts so. -/
def dropStart? : (start s : List Char) → Option (List Char)
  | [], s => some s
  | _ :: _, [] => none
  | a :: start, c :: s => if a = c then dropStart? start s else none

/-- Cut at the first occurrence of the text `sep`. -/
def cutText? (sep : List Char) : List Char → Option (List Char × List Char)
  | [] => if sep = [] then some ([], []) else none
  | c :: r =>
    match dropStart? sep (c :: r) with
    | some after => some ([], after)
    | none => (cutText? sep r).map fun (before, after) => (c :: before, after)

/-- Whether the needle stands somewhere in the text. -/
def occurs (needle s : List Char) : Bool :=
  (cutText? needle s).isSome

/-- The text up to the first `sep`, or all of it. -/
def upTo (sep : Char) (s : List Char) : List Char :=
  s.takeWhile (· ≠ sep)

theorem eq_of_cut?_eq_some {sep : Char} {s before after : List Char}
    (h : cut? sep s = some (before, after)) : s = before ++ sep :: after := by
  induction s generalizing before after with
  | nil => simp [cut?] at h
  | cons c r ih =>
    by_cases hc : c = sep
    · simp only [cut?, hc, if_true, Option.some.injEq, Prod.mk.injEq] at h
      simp [hc, ← h.1, ← h.2]
    · simp only [cut?, hc, if_false, Option.map_eq_some_iff, Prod.exists] at h
      obtain ⟨b, a, hr, hb⟩ := h
      simp only [Prod.mk.injEq] at hb
      rw [ih hr, ← hb.1, ← hb.2, List.cons_append]

theorem eq_of_dropStart?_eq_some {start s rest : List Char}
    (h : dropStart? start s = some rest) : s = start ++ rest := by
  fun_induction dropStart? start s with
  | case1 => simpa using h
  | case2 => simp at h
  | case3 c start s ih => simp [ih h]
  | case4 => simp at h

theorem dropStart?_append (start rest : List Char) :
    dropStart? start (start ++ rest) = some rest := by
  induction start with
  | nil => rfl
  | cons a start ih => simpa [dropStart?] using ih

theorem dropStart?_isSome_iff {start s : List Char} :
    (dropStart? start s).isSome = true ↔ start <+: s := by
  constructor
  · intro h
    obtain ⟨rest, hr⟩ := Option.isSome_iff_exists.1 h
    exact ⟨rest, (eq_of_dropStart?_eq_some hr).symm⟩
  · rintro ⟨rest, rfl⟩
    rw [dropStart?_append]
    rfl

theorem occurs_iff {needle s : List Char} : occurs needle s = true ↔ needle <:+: s := by
  induction s with
  | nil =>
    by_cases h : needle = [] <;> simp [occurs, cutText?, h]
  | cons c r ih =>
    rw [List.infix_cons_iff, ← dropStart?_isSome_iff, ← ih]
    cases h : dropStart? needle (c :: r) <;> simp [occurs, cutText?, h]

end ErrorOrigin.Text
