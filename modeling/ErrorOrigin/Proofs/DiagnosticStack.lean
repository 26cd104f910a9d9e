import ErrorOrigin.Incident.Basic
import ErrorOrigin.Proofs.FramePosition
import ErrorOrigin.Proofs.WrittenStack
import Mathlib.Tactic

/-!
# The stack of a diagnostic

A diagnostic has no stack of its own, so one is written for it: its message on the header line and
its place on the line of one frame.  Whatever the message says, none of it is read as a frame.  The
place is read back as it stands, unless a coordinate is negative: that is no numeral, so it stays in
the file of the frame, and the frame has no position.
-/

namespace ErrorOrigin

open Text

namespace Stack

theorem isNumeral_toString_iff {n : Int} : isNumeral (toString n).toList = true ↔ 0 ≤ n := by
  rw [toList_toString_int]
  split
  · rename_i hn
    exact iff_of_true (isNumeral_toDigits _) hn
  · rename_i hn
    exact iff_of_false (by simp [isNumeral]) hn

theorem not_endsInNumeral_append_writeCoordinate {n : Int} (hn : n < 0) (s : List Char) :
    ¬EndsInNumeral (s ++ writeCoordinate n) := by
  rintro ⟨front, last, hsplit, hlast⟩
  have hcolon : ':' ∉ (toString n).toList :=
    not_mem_toString_int (by decide) (by decide) n
  have hcut := cutLast?_append_cons front (not_mem_of_isNumeral hlast)
  rw [← hsplit, writeCoordinate, cutLast?_append_cons s hcolon, Option.some.injEq,
    Prod.mk.injEq] at hcut
  rw [← hcut.2, isNumeral_toString_iff] at hlast
  omega

/-- A frame with a line but without a function is what its place is read as. -/
theorem Frame.ofLine?_write_of_line {f : Frame} (hname : f.function = none)
    (hfile : f.file.isSome = true) {l : Int} (hline : f.line = some l)
    (hhead : ∀ c ∈ f.path.head?, isBlank c = false) :
    ofLine? f.write.toList = some (ofPlace f.place) := by
  obtain ⟨htrimmed, hne, hparts⟩ := isTrimmed_place_of_line hfile hline hhead
  rw [toList_write, hname, Option.elim_none, ofLine?_at, htrimmed.trim_eq, ofCall?, if_neg hne,
    hparts]

/-- Below zero a line is not read as one, and a column keeps the line from being read. -/
theorem Frame.ofPlace_of_neg {s : List Char} {l c : Int} (hneg : l < 0 ∨ c < 0) :
    (ofPlace (s ++ (writeCoordinate l ++ writeCoordinate c))).column = none := by
  rw [← List.append_assoc]
  by_cases hc : c < 0
  · rw [ofPlace_of_not_endsInNumeral (not_endsInNumeral_append_writeCoordinate hc _)]
  · have hl : l < 0 := hneg.resolve_right hc
    have hnumeral : isNumeral (toString c).toList = true :=
      isNumeral_toString_iff.mpr (not_lt.mp hc)
    have hfront := not_endsInNumeral_append_writeCoordinate hl s
    rw [writeCoordinate.eq_1 c, ofPlace_of_line hnumeral hfront]

end Stack

/-! ## Diagnostics -/

def Diagnostic.Place.IsAt (place : Diagnostic.Place) (p : Position) : Prop :=
  place.file = p.file ∧ place.line = p.line ∧ place.column = p.column ∧ p.IsUsable

def Diagnostic.Place.frame (place : Diagnostic.Place) : Stack.Frame :=
  ⟨some place.file, some place.line, some place.column, none⟩

theorem Diagnostic.Place.isAt_frame_iff {place : Diagnostic.Place} {p : Position} :
    place.frame.IsAt p ↔ place.IsAt p := by
  simp [frame, Stack.Frame.IsAt, IsAt]

namespace ErrorRecord

theorem not_mem_onOneLine (text : String) : '\n' ∉ (onOneLine text).toList := by
  intro hbreak
  rw [onOneLine, String.toList_intercalate] at hbreak
  rcases mem_of_mem_intercalate hbreak with hspace | ⟨piece, hpiece, hbreak⟩
  · exact absurd hspace (by decide)
  · obtain ⟨text, htext, rfl⟩ := List.mem_map.mp hpiece
    obtain ⟨shown, hshown, rfl⟩ := List.mem_map.mp htext
    obtain ⟨line, hline, rfl⟩ := List.mem_map.mp (List.mem_of_mem_filter hshown)
    rw [String.toList_ofList] at hbreak
    exact not_mem_of_mem_lines hline (trim_subset line hbreak)

theorem isOneLine_header (message : String) :
    (Stack.Header.mk defaultErrorName (onOneLine message)).IsOneLine := by
  have hname : ∀ c ∈ defaultErrorName.toList, isBlank c = false ∧ c ≠ '@' := by
    simp [defaultErrorName, isBlank]
  exact ⟨hname, not_mem_onOneLine message⟩

theorem stack_ofDiagnostic (d : Diagnostic) :
    (ofDiagnostic d).stack = d.place.map fun place =>
      Stack.write [place.frame] (some ⟨defaultErrorName, onOneLine d.message⟩) := by
  refine congrArg (d.place.map ·) (funext fun place => ?_)
  rw [← String.toList_inj, Stack.write, String.toList_intercalate]
  simp [Stack.Frame.write, Diagnostic.Place.frame, Stack.writePlace]

/-- What is read of a diagnostic's stack is what its place is read as. -/
theorem framesOf_stack_ofDiagnostic {place : Diagnostic.Place} (message : String)
    (hbreak : '\n' ∉ place.file.toList)
    (hhead : ∀ c ∈ place.file.toList.head?, isBlank c = false) :
    Stack.framesOf (Stack.write [place.frame] (some ⟨defaultErrorName, onOneLine message⟩)).toList =
      [Stack.Frame.ofPlace place.frame.place] := by
  have hchars : '\n' ∉ place.frame.chars := by
    simpa [Diagnostic.Place.frame, Stack.Frame.chars] using hbreak
  have hframe := Stack.Frame.ofLine?_write_of_line (f := place.frame) rfl rfl rfl hhead
  rw [Stack.framesOf_write, Option.toList_some, List.flatMap_singleton,
    (isOneLine_header message).framesOf_write, List.nil_append, List.flatMap_singleton,
    Stack.framesOf_of_not_mem (Stack.Frame.not_mem_write hchars), hframe]
  rfl

end ErrorRecord

namespace Diagnostic.Place

variable {place : Diagnostic.Place}

theorem ofPlace_frame_place (hline : Stack.InRange place.line)
    (hcolumn : Stack.InRange place.column) :
    Stack.Frame.ofPlace place.frame.place = place.frame := by
  have hplace : place.frame.place = place.file.toList ++
      (Stack.writeCoordinate place.line ++ Stack.writeCoordinate place.column) :=
    Stack.Frame.place_eq rfl
  rw [hplace, Stack.Frame.ofPlace_file_line_column hline hcolumn, String.ofList_toList]
  rfl

theorem position?_ofPlace_frame_place (hline : place.line ≤ Stack.Frame.greatest)
    (hcolumn : place.column ≤ Stack.Frame.greatest) {p : Position} :
    (Stack.Frame.ofPlace place.frame.place).position? = some p ↔ place.IsAt p := by
  rw [Stack.Frame.position?_eq_some_iff]
  by_cases hneg : place.line < 0 ∨ place.column < 0
  · have hnone : (Stack.Frame.ofPlace place.frame.place).column = none :=
      Stack.Frame.place_eq (f := place.frame) rfl ▸ Stack.Frame.ofPlace_of_neg hneg
    constructor
    · rintro ⟨-, -, hsome, -⟩
      rw [hnone] at hsome
      cases hsome
    · rintro ⟨-, hl, hc, -⟩
      omega
  · rw [not_or, not_lt, not_lt] at hneg
    rw [ofPlace_frame_place ⟨hneg.1, hline⟩ ⟨hneg.2, hcolumn⟩, isAt_frame_iff]

end Diagnostic.Place

namespace ErrorRecord

/-- Whatever its message, the stack of a diagnostic is read as one frame, which is its place unless
a coordinate is negative, and which has a position just if the place is one. -/
theorem read_stack_ofDiagnostic {d : Diagnostic} {place : Diagnostic.Place}
    (hplace : d.place = some place) (hbreak : '\n' ∉ place.file.toList)
    (hhead : ∀ c ∈ place.file.toList.head?, isBlank c = false)
    (hline : place.line ≤ Stack.Frame.greatest) (hcolumn : place.column ≤ Stack.Frame.greatest)
    {limit : Nat} (hlimit : 1 ≤ limit) :
    ∃ stack f, (ofDiagnostic d).stack = some stack ∧ Stack.read stack limit = [f] ∧
      (0 ≤ place.line → 0 ≤ place.column →
        f = ⟨some place.file, some place.line, some place.column, none⟩) ∧
      ∀ p, f.position? = some p ↔ place.IsAt p := by
  have hstack := stack_ofDiagnostic d
  rw [hplace, Option.map_some] at hstack
  refine ⟨_, Stack.Frame.ofPlace place.frame.place, hstack, ?_, ?_, ?_⟩
  · rw [Stack.read_eq, framesOf_stack_ofDiagnostic d.message hbreak hhead]
    exact List.take_of_length_le hlimit
  · intro hl hc
    exact Diagnostic.Place.ofPlace_frame_place ⟨hl, hline⟩ ⟨hc, hcolumn⟩
  · intro p
    exact Diagnostic.Place.position?_ofPlace_frame_place hline hcolumn

/-- The message looks like frames of both dialects, and the column is unknown. -/
theorem read_stack_ofDiagnostic_of_frames :
    let d : Diagnostic :=
      ⟨"    at f (/a.js:1:2)\r\n\ng@/b.js:3:4\n at /c.js:5:6 ", some ⟨"src/a (b).vue:1", 12, 0⟩⟩
    '\n' ∉ "src/a (b).vue:1".toList ∧
      (∀ c ∈ "src/a (b).vue:1".toList.head?, isBlank c = false) ∧
      ∃ stack, (ofDiagnostic d).stack = some stack ∧
        Stack.read stack 50 = [⟨some "src/a (b).vue:1", some 12, some 0, none⟩] ∧
        Stack.firstPosition? (Stack.read stack 50) = none := by
  intro d
  have hbreak : '\n' ∉ "src/a (b).vue:1".toList := by decide
  have hhead : ∀ c ∈ "src/a (b).vue:1".toList.head?, isBlank c = false := by
    simp [isBlank]
  obtain ⟨stack, f, hstack, hread, hframe, -⟩ :=
    read_stack_ofDiagnostic (d := d) rfl hbreak hhead (by decide) (by decide)
      (show 1 ≤ 50 by decide)
  have hf := hframe (by decide) (by decide)
  rw [hf] at hread
  refine ⟨hbreak, hhead, stack, hstack, hread, ?_⟩
  rw [hread]
  decide

end ErrorRecord

end ErrorOrigin
