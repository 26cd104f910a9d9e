import ErrorOrigin.Proofs.TextCuts
import Mathlib.Tactic

/-!
# Frames that survive being written

The reader keeps more of a line than the writer gives back: a column below an unknown line, blanks
in front of a file without a function.  A frame is legible if nothing of that kind is in it, and
these are exactly the frames that are read back from the line on which they are written.
-/

namespace ErrorOrigin.Stack

open Text

/-- The text ends as a place with a line does. -/
def EndsInNumeral (s : List Char) : Prop :=
  ∃ front last, s = front ++ ':' :: last ∧ isNumeral last = true

def readCoordinate (s : List Char) : Option Int :=
  (readNumeral? Frame.greatest s).map Int.ofNat

theorem not_mem_of_isNumeral {s : List Char} (hs : isNumeral s = true) : ':' ∉ s := by
  intro hmem
  rw [isNumeral, Bool.and_eq_true, List.all_eq_true] at hs
  have hdigit := hs.2 ':' hmem
  exact absurd hdigit (by decide)

theorem Frame.ofPlace_of_not_endsInNumeral {s : List Char} (hs : ¬EndsInNumeral s) :
    ofPlace s = { file := String.ofList s } := by
  rw [ofPlace]
  cases hcut : cutLast? ':' s with
  | none => rfl
  | some parts =>
      obtain ⟨front, last⟩ := parts
      have hlast : ¬isNumeral last = true := fun hlast =>
        hs ⟨front, last, eq_of_cutLast?_eq_some hcut, hlast⟩
      simp [hlast]

theorem Frame.ofPlace_of_line {front last : List Char} (hlast : isNumeral last = true)
    (hfront : ¬EndsInNumeral front) :
    ofPlace (front ++ ':' :: last) =
      { file := String.ofList front, line := readCoordinate last } := by
  rw [ofPlace, cutLast?_append_cons front (not_mem_of_isNumeral hlast)]
  simp only [hlast, not_true_eq_false, if_false]
  cases hcut : cutLast? ':' front with
  | none => rfl
  | some parts =>
      obtain ⟨file, middle⟩ := parts
      have hmiddle : ¬isNumeral middle = true := fun hmiddle =>
        hfront ⟨file, middle, eq_of_cutLast?_eq_some hcut, hmiddle⟩
      simp [hmiddle, readCoordinate]

theorem Frame.ofPlace_of_line_column {file middle last : List Char}
    (hmiddle : isNumeral middle = true) (hlast : isNumeral last = true) :
    ofPlace ((file ++ ':' :: middle) ++ ':' :: last) =
      { file := String.ofList file, line := readCoordinate middle,
        column := readCoordinate last } := by
  rw [ofPlace, cutLast?_append_cons _ (not_mem_of_isNumeral hlast)]
  simp only [hlast, not_true_eq_false, if_false]
  rw [cutLast?_append_cons file (not_mem_of_isNumeral hmiddle)]
  simp only [hmiddle, if_true]
  rfl

/-- A place is a file, or a file with a line, or one with both. -/
theorem Frame.ofPlace_cases (s : List Char) :
    (¬EndsInNumeral s ∧ ofPlace s = { file := String.ofList s }) ∨
      (∃ front last, s = front ++ ':' :: last ∧ isNumeral last = true ∧ ¬EndsInNumeral front ∧
        ofPlace s = { file := String.ofList front, line := readCoordinate last }) ∨
      ∃ file middle last, s = (file ++ ':' :: middle) ++ ':' :: last ∧
        isNumeral middle = true ∧ isNumeral last = true ∧
        ofPlace s =
          { file := String.ofList file, line := readCoordinate middle,
            column := readCoordinate last } := by
  by_cases hs : EndsInNumeral s
  · obtain ⟨front, last, rfl, hlast⟩ := hs
    by_cases hfront : EndsInNumeral front
    · obtain ⟨file, middle, rfl, hmiddle⟩ := hfront
      exact .inr (.inr ⟨file, middle, last, rfl, hmiddle, hlast,
        ofPlace_of_line_column hmiddle hlast⟩)
    · exact .inr (.inl ⟨front, last, rfl, hlast, hfront, ofPlace_of_line hlast hfront⟩)
  · exact .inl ⟨hs, ofPlace_of_not_endsInNumeral hs⟩

/-! ## Reading a written place -/

def InRange (n : Int) : Prop :=
  0 ≤ n ∧ n ≤ Frame.greatest

instance (n : Int) : Decidable (InRange n) :=
  inferInstanceAs (Decidable (0 ≤ n ∧ n ≤ Frame.greatest))

def writeCoordinate (n : Int) : List Char :=
  ':' :: (toString n).toList

theorem readCoordinate_toString {n : Int} (hn : InRange n) :
    isNumeral (toString n).toList = true ∧ readCoordinate (toString n).toList = some n := by
  obtain ⟨m, rfl⟩ := Int.eq_ofNat_of_zero_le hn.1
  have hm : m ≤ Frame.greatest := by
    have hle := hn.2
    omega
  have hdigits : (toString (m : Int)).toList = Nat.toDigits 10 m := by
    rw [Int.toString_eq_repr, Int.repr_eq_if]
    simp
  rw [hdigits, readCoordinate, readNumeral?_toDigits hm]
  exact ⟨isNumeral_toDigits m, rfl⟩

def Frame.path (f : Frame) : List Char :=
  (f.file.getD "").toList

def Frame.place (f : Frame) : List Char :=
  (writePlace f.file f.line f.column).toList

/-- What is known of a frame that was read from a line. -/
structure Frame.IsRead (f : Frame) : Prop where
  file : f.file = some (String.ofList f.path)
  line : ∀ l, f.line = some l → InRange l
  column : ∀ c, f.column = some c → InRange c
  function : ∀ name, f.function = some name →
    name.toList ≠ [] ∧ IsTrimmed name.toList ∧ ¬[' ', '('] <:+: name.toList

theorem Frame.place_eq {f : Frame} (hfile : f.file.isSome = true) :
    f.place = f.path ++
      f.line.elim [] fun l => writeCoordinate l ++ f.column.elim [] writeCoordinate := by
  obtain ⟨file, hfile⟩ := Option.isSome_iff_exists.mp hfile
  rw [place, path, hfile]
  unfold writePlace writeCoordinate
  cases f.line with
  | none => simp
  | some l => cases f.column <;> simp

theorem Frame.IsRead.isSome_file {f : Frame} (hf : f.IsRead) : f.file.isSome = true := by
  rw [hf.file]
  rfl

theorem Frame.IsRead.place_eq {f : Frame} (hf : f.IsRead) :
    f.place = f.path ++
      f.line.elim [] fun l => writeCoordinate l ++ f.column.elim [] writeCoordinate :=
  Frame.place_eq hf.isSome_file

theorem Frame.file_ofPlace (s : List Char) :
    ∃ path, (ofPlace s).file = some (String.ofList path) ∧ path <+: s := by
  rcases ofPlace_cases s with ⟨-, hplace⟩ | ⟨front, last, rfl, -, -, hplace⟩ |
    ⟨file, middle, last, rfl, -, -, hplace⟩
  · exact ⟨s, by rw [hplace], List.prefix_refl s⟩
  · exact ⟨front, by rw [hplace], List.prefix_append _ _⟩
  · refine ⟨file, by rw [hplace], ?_⟩
    rw [List.append_assoc]
    exact List.prefix_append _ _

theorem Frame.file_ofPlace_ne {s : List Char} (hs : EndsInNumeral s) :
    (ofPlace s).file ≠ some (String.ofList s) := by
  intro hfile
  rcases ofPlace_cases s with ⟨hends, -⟩ | ⟨front, last, rfl, -, -, hplace⟩ |
    ⟨file, middle, last, rfl, -, -, hplace⟩
  · exact hends hs
  · rw [hplace] at hfile
    have hlength := congrArg List.length (String.ofList_inj.mp (Option.some.inj hfile))
    simp at hlength
  · rw [hplace] at hfile
    have hlength := congrArg List.length (String.ofList_inj.mp (Option.some.inj hfile))
    simp at hlength

/-- A file is read back from itself alone if it does not end in a line. -/
theorem Frame.ofPlace_eq_file_iff {s : List Char} {column : Option Int} :
    ofPlace s = { file := String.ofList s, column := column } ↔
      column = none ∧ ¬EndsInNumeral s := by
  constructor
  · intro hback
    have hs : ¬EndsInNumeral s := fun hs => file_ofPlace_ne hs (by rw [hback])
    rw [ofPlace_of_not_endsInNumeral hs, Frame.mk.injEq] at hback
    exact ⟨hback.2.2.1.symm, hs⟩
  · rintro ⟨rfl, hs⟩
    exact ofPlace_of_not_endsInNumeral hs

theorem Frame.ofPlace_eq_file_line_iff {s : List Char} {l : Int} (hl : InRange l) :
    ofPlace (s ++ writeCoordinate l) = { file := String.ofList s, line := l } ↔
      ¬EndsInNumeral s := by
  obtain ⟨hnumeral, hread⟩ := readCoordinate_toString hl
  constructor
  · rintro hback ⟨file, middle, rfl, hmiddle⟩
    rw [writeCoordinate, ofPlace_of_line_column hmiddle hnumeral, hread] at hback
    simp at hback
  · intro hs
    rw [writeCoordinate, ofPlace_of_line hnumeral hs, hread]

theorem Frame.ofPlace_file_line_column {s : List Char} {l c : Int} (hl : InRange l)
    (hc : InRange c) :
    ofPlace (s ++ (writeCoordinate l ++ writeCoordinate c)) =
      { file := String.ofList s, line := l, column := c } := by
  obtain ⟨hlNumeral, hlRead⟩ := readCoordinate_toString hl
  obtain ⟨hcNumeral, hcRead⟩ := readCoordinate_toString hc
  rw [writeCoordinate, writeCoordinate, ← List.append_assoc,
    ofPlace_of_line_column hlNumeral hcNumeral, hlRead, hcRead]

/-- The place is read back unless a column stands alone or the file ends like a place. -/
theorem Frame.IsRead.ofPlace_place_iff {f : Frame} (hf : f.IsRead) :
    ofPlace f.place = { f with function := none } ↔
      (f.line = none → f.column = none) ∧ (f.column = none → ¬EndsInNumeral f.path) := by
  rw [hf.place_eq, hf.file]
  cases hline : f.line with
  | none =>
      rw [Option.elim_none, List.append_nil, ofPlace_eq_file_iff]
      constructor
      · rintro ⟨hcolumn, hends⟩
        exact ⟨fun _ => hcolumn, fun _ => hends⟩
      · rintro ⟨hcolumn, hends⟩
        exact ⟨hcolumn rfl, hends (hcolumn rfl)⟩
  | some l =>
      have hl := hf.line l hline
      cases hcolumn : f.column with
      | none =>
          rw [Option.elim_some, Option.elim_none, List.append_nil, ofPlace_eq_file_line_iff hl]
          simp
      | some c =>
          rw [Option.elim_some, Option.elim_some,
            ofPlace_file_line_column hl (hf.column c hcolumn)]
          simp

theorem Frame.toList_write (f : Frame) :
    f.write.toList = "    at ".toList ++
      f.function.elim f.place fun name =>
        name.toList ++ ' ' :: '(' :: (f.place ++ [')']) := by
  unfold write place
  cases f.function <;> simp

theorem Frame.ofLine?_at (rest : List Char) :
    ofLine? ("    at ".toList ++ rest) = ofCall? (trim rest) := by
  obtain ⟨core, blanks, rfl, hcore, hblanks⟩ := exists_eq_append_blanks rest
  have hline : trim ("    at ".toList ++ (core ++ blanks)) = trim ("at ".toList ++ core) := by
    rw [← List.append_assoc, trim_append_blanks _ hblanks]
    have hindent : "    at ".toList ++ core = ' ' :: ' ' :: ' ' :: ' ' :: ("at ".toList ++ core) :=
      rfl
    rw [hindent]
    simp only [trim_cons_blank (show isBlank ' ' = true by decide)]
  rw [ofLine?, hline, trim_append_blanks core hblanks]
  by_cases hnil : core = []
  · subst core
    decide
  · have htrimmed : IsTrimmed ("at ".toList ++ core) := by
      constructor
      · intro c hc
        obtain rfl : 'a' = c := by simpa using hc
        decide
      · rw [List.getLast?_append_of_ne_nil _ hnil]
        exact hcore
    rw [htrimmed.trim_eq]
    have hstart : dropStart? ['a', 't', ' '] ("at ".toList ++ core) = some core :=
      dropStart?_append _ core
    rw [hstart]

theorem parenthesized?_append {name : List Char} (place : List Char)
    (hname : ¬[' ', '('] <:+: name) :
    parenthesized? (name ++ ' ' :: '(' :: (place ++ [')'])) = some (name, place) := by
  have hlast : (name ++ ' ' :: '(' :: (place ++ [')'])).getLast? = some ')' := by
    rw [← List.cons_append, ← List.cons_append, ← List.append_assoc, List.getLast?_concat]
  rw [parenthesized?, if_pos hlast, cutText?_pair_append (by decide) _ hname]
  simp

/-- The place in parentheses ends the text, and the pair before it is the first of its kind. -/
theorem parenthesized?_inversion {s name place : List Char}
    (hparts : parenthesized? s = some (name, place)) :
    ∃ after, s = name ++ ' ' :: '(' :: after ∧ place = after.dropLast ∧
      ¬[' ', '('] <:+: name := by
  rw [parenthesized?] at hparts
  split at hparts
  · obtain ⟨⟨before, after⟩, hcut, heq⟩ := Option.map_eq_some_iff.mp hparts
    obtain ⟨rfl, rfl⟩ := Prod.mk.inj heq
    have hsplit := eq_of_cutText?_eq_some hcut
    exact ⟨after, hsplit, rfl, not_infix_of_cutText?_eq_some (by simp) hcut⟩
  · cases hparts

theorem trim_ne_nil_of_parenthesized {s name place : List Char} (hs : IsTrimmed s)
    (hparts : parenthesized? s = some (name, place)) : trim name ≠ [] := by
  obtain ⟨after, rfl, -, -⟩ := parenthesized?_inversion hparts
  rw [ne_eq, trim_eq_nil_iff]
  intro hblank
  cases name with
  | nil =>
      have hhead := hs.head ' ' rfl
      exact absurd hhead (by decide)
  | cons c rest =>
      have hhead := hs.head c rfl
      have hc := hblank c List.mem_cons_self
      rw [hhead] at hc
      cases hc

theorem Frame.ofCall?_eq_some_iff_of_unnamed {s : List Char} {f : Frame} (hs : IsTrimmed s)
    (hf : f.function = none) :
    ofCall? s = some f ↔ s ≠ [] ∧ parenthesized? s = none ∧ ofPlace s = f := by
  rw [ofCall?]
  by_cases hnil : s = []
  · simp [hnil]
  · rw [if_neg hnil]
    cases hparts : parenthesized? s with
    | none => simp [hnil]
    | some parts =>
        obtain ⟨name, place⟩ := parts
        have hname := trim_ne_nil_of_parenthesized hs hparts
        constructor
        · intro hcall
          change some ((ofPlace place).named (trim name)) = some f at hcall
          rw [named, if_neg hname] at hcall
          rw [← Option.some.inj hcall] at hf
          cases hf
        · rintro ⟨-, hnone, -⟩
          cases hnone

theorem parenthesized?_eq_none_iff {s : List Char} :
    parenthesized? s = none ↔ ¬(s.getLast? = some ')' ∧ [' ', '('] <:+: s) := by
  rw [parenthesized?]
  by_cases hlast : s.getLast? = some ')'
  · rw [if_pos hlast, Option.map_eq_none_iff, cutText?_eq_none_iff]
    simp [hlast]
  · rw [if_neg hlast]
    simp [hlast]

/-! ## Legible frames -/

/-- Nothing of the frame is lost when it is written: no column without a line, no file that reads
as a place, and without a function no blank in front of the file and no file that is blank at its
end or ends in parentheses. -/
structure Frame.Legible (f : Frame) : Prop where
  column : f.line = none → f.column = none
  path : f.column = none → ¬EndsInNumeral f.path
  head : f.function = none → ∀ c ∈ f.path.head?, isBlank c = false
  bare : f.function = none → f.line = none →
    f.path ≠ [] ∧ (∀ c ∈ f.path.getLast?, isBlank c = false) ∧
      ¬(f.path.getLast? = some ')' ∧ [' ', '('] <:+: f.path)

theorem isBlank_of_isDigit {c : Char} (hc : c.isDigit = true) : isBlank c = false := by
  have hrange : 48 ≤ c.toNat ∧ c.toNat ≤ 57 := by
    simpa [Char.isDigit, UInt32.le_iff_toNat_le] using hc
  simp only [isBlank, Bool.or_eq_false_iff, Bool.and_eq_false_iff, decide_eq_false_iff_not,
    beq_eq_false_iff_ne]
  omega

theorem isDigit_of_getLast?_writeCoordinate (n : Int) (s : List Char) :
    ∀ c ∈ (s ++ writeCoordinate n).getLast?, c.isDigit = true := by
  obtain ⟨front, m, hwritten⟩ : ∃ front m, writeCoordinate n = front ++ Nat.toDigits 10 m := by
    rw [writeCoordinate, toList_toString_int]
    split
    · exact ⟨[':'], _, rfl⟩
    · exact ⟨[':', '-'], _, rfl⟩
  intro c hc
  rw [hwritten, ← List.append_assoc,
    List.getLast?_append_of_ne_nil _ Nat.toDigits_ne_nil] at hc
  exact Nat.isDigit_of_mem_toDigits (by decide) (by decide) (List.mem_of_getLast? hc)

theorem Frame.isDigit_of_getLast?_place {f : Frame} (hfile : f.file.isSome = true) {l : Int}
    (hline : f.line = some l) : ∀ c ∈ f.place.getLast?, c.isDigit = true := by
  rw [place_eq hfile, hline, Option.elim_some]
  cases f.column with
  | none =>
      rw [Option.elim_none, List.append_nil]
      exact isDigit_of_getLast?_writeCoordinate l f.path
  | some c =>
      rw [Option.elim_some, ← List.append_assoc]
      exact isDigit_of_getLast?_writeCoordinate c _

theorem Frame.head_place_iff {f : Frame} (hfile : f.file.isSome = true) {l : Int}
    (hline : f.line = some l) :
    (∀ c ∈ f.place.head?, isBlank c = false) ↔ ∀ c ∈ f.path.head?, isBlank c = false := by
  have hcolon : isBlank ':' = false := by decide
  rw [place_eq hfile, hline, Option.elim_some, List.head?_append, writeCoordinate]
  cases f.path.head? <;> simp [hcolon]

theorem Frame.isTrimmed_place_of_line {f : Frame} (hfile : f.file.isSome = true) {l : Int}
    (hline : f.line = some l) (hhead : ∀ c ∈ f.path.head?, isBlank c = false) :
    IsTrimmed f.place ∧ f.place ≠ [] ∧ parenthesized? f.place = none := by
  have hdigit := isDigit_of_getLast?_place hfile hline
  refine ⟨⟨(head_place_iff hfile hline).mpr hhead, ?_⟩, ?_, ?_⟩
  · intro c hc
    exact isBlank_of_isDigit (hdigit c hc)
  · rw [place_eq hfile, hline]
    simp [writeCoordinate]
  · rw [parenthesized?_eq_none_iff]
    rintro ⟨hlast, -⟩
    exact absurd (hdigit ')' hlast) (by decide)

theorem Frame.IsRead.ofLine?_write_iff_of_named {f : Frame} (hf : f.IsRead) {name : String}
    (hname : f.function = some name) :
    ofLine? f.write.toList = some f ↔ ofPlace f.place = { f with function := none } := by
  obtain ⟨hne, htrimmed, hpair⟩ := hf.function name hname
  have hbody : IsTrimmed (name.toList ++ ' ' :: '(' :: (f.place ++ [')'])) := by
    constructor
    · rw [List.head?_append_of_ne_nil _ hne]
      exact htrimmed.head
    · intro c hc
      rw [← List.cons_append, ← List.cons_append, ← List.append_assoc,
        List.getLast?_concat] at hc
      cases hc
      decide
  have hcall : ofCall? (name.toList ++ ' ' :: '(' :: (f.place ++ [')'])) =
      some ((ofPlace f.place).named name.toList) := by
    rw [ofCall?, if_neg (by simp), parenthesized?_append _ hpair]
    simp only [htrimmed.trim_eq]
  rw [toList_write, hname, Option.elim_some, ofLine?_at, hbody.trim_eq, hcall, named, if_neg hne,
    String.ofList_toList, Option.some.injEq]
  have hnone := ofPlace_function f.place
  generalize ofPlace f.place = g at hnone
  constructor
  · intro hback
    rw [← hback, ← hnone]
  · intro hback
    rw [hback, ← hname]

theorem Frame.IsRead.isTrimmed_place {f : Frame} (hf : f.IsRead)
    (hback : ofPlace (trim f.place) = f) : IsTrimmed f.place := by
  obtain ⟨path, hfile, hstart⟩ := file_ofPlace (trim f.place)
  have hpath : path = f.path := by
    rw [hback, hf.file, Option.some.injEq, String.ofList_inj] at hfile
    exact hfile.symm
  subst path
  have hplace := hf.place_eq
  cases hline : f.line with
  | none =>
      rw [hline, Option.elim_none, List.append_nil] at hplace
      have hlength : (trim f.place).length ≤ f.place.length := (trim_isInfix f.place).length_le
      have heq : f.place = trim f.place := by
        rw [hplace] at hstart hlength ⊢
        exact hstart.eq_of_length_le hlength
      rw [heq]
      exact isTrimmed_trim f.place
  | some l =>
      have hhead : ∀ c ∈ f.path.head?, isBlank c = false := by
        obtain ⟨others, hothers⟩ := hstart
        intro c hc
        apply (isTrimmed_trim f.place).head c
        rw [← hothers, List.head?_append, Option.mem_def.mp hc]
        rfl
      exact (isTrimmed_place_of_line hf.isSome_file hline hhead).1

theorem Frame.IsRead.ofLine?_write_iff_of_unnamed {f : Frame} (hf : f.IsRead)
    (hname : f.function = none) :
    ofLine? f.write.toList = some f ↔
      IsTrimmed f.place ∧ f.place ≠ [] ∧ parenthesized? f.place = none ∧
        ofPlace f.place = f := by
  rw [toList_write, hname, Option.elim_none, ofLine?_at,
    ofCall?_eq_some_iff_of_unnamed (isTrimmed_trim f.place) hname]
  constructor
  · rintro ⟨hne, hparts, hback⟩
    have htrimmed := hf.isTrimmed_place hback
    rw [htrimmed.trim_eq] at hne hparts hback
    exact ⟨htrimmed, hne, hparts, hback⟩
  · rintro ⟨htrimmed, hne, hparts, hback⟩
    rw [htrimmed.trim_eq]
    exact ⟨hne, hparts, hback⟩

/-- The legible frames are those that are read back from their own line. -/
theorem Frame.IsRead.ofLine?_write_iff {f : Frame} (hf : f.IsRead) :
    ofLine? f.write.toList = some f ↔ f.Legible := by
  have hplace := hf.ofPlace_place_iff
  cases hname : f.function with
  | some name =>
      rw [hf.ofLine?_write_iff_of_named hname, hplace]
      constructor
      · rintro ⟨hcolumn, hpath⟩
        exact ⟨hcolumn, hpath, by simp [hname], by simp [hname]⟩
      · intro hlegible
        exact ⟨hlegible.column, hlegible.path⟩
  | none =>
      have hself : { f with function := none } = f := by rw [← hname]
      rw [hself] at hplace
      rw [hf.ofLine?_write_iff_of_unnamed hname, hplace]
      have hwritten := hf.place_eq
      cases hline : f.line with
      | none =>
          rw [hline, Option.elim_none, List.append_nil] at hwritten
          rw [hwritten, parenthesized?_eq_none_iff]
          constructor
          · rintro ⟨htrimmed, hne, hparts, hcolumn, hpath⟩
            exact ⟨fun _ => hcolumn rfl, hpath, fun _ => htrimmed.head,
              fun _ _ => ⟨hne, htrimmed.last, hparts⟩⟩
          · intro hlegible
            obtain ⟨hne, hlast, hparts⟩ := hlegible.bare hname hline
            exact ⟨⟨hlegible.head hname, hlast⟩, hne, hparts, fun _ => hlegible.column hline,
              hlegible.path⟩
      | some l =>
          have hhead := head_place_iff hf.isSome_file hline
          constructor
          · rintro ⟨htrimmed, -, -, hcolumn, hpath⟩
            exact ⟨by simp [hline], hpath, fun _ => hhead.mp htrimmed.head, by simp [hline]⟩
          · intro hlegible
            obtain ⟨htrimmed, hne, hparts⟩ :=
              isTrimmed_place_of_line hf.isSome_file hline (hlegible.head hname)
            exact ⟨htrimmed, hne, hparts, by simp, hlegible.path⟩

theorem inRange_of_readCoordinate {s : List Char} {n : Int} (hs : readCoordinate s = some n) :
    InRange n := by
  rw [readCoordinate, Option.map_eq_some_iff] at hs
  obtain ⟨m, hm, rfl⟩ := hs
  have hle : m ≤ Frame.greatest := by
    rw [readNumeral?] at hm
    split at hm
    · simpa using (Option.filter_eq_some_iff.mp hm).2
    · cases hm
  exact ⟨Int.natCast_nonneg m, Int.ofNat_le.mpr hle⟩

theorem Frame.isRead_ofPlace (s : List Char) : (ofPlace s).IsRead := by
  obtain ⟨path, hfile, -⟩ := file_ofPlace s
  have hnone := ofPlace_function s
  have hcoordinates : (∀ l, (ofPlace s).line = some l → InRange l) ∧
      ∀ c, (ofPlace s).column = some c → InRange c := by
    rcases ofPlace_cases s with ⟨-, hplace⟩ | ⟨_, _, -, -, -, hplace⟩ |
      ⟨_, _, _, -, -, -, hplace⟩ <;> rw [hplace]
    · simp
    · exact ⟨fun l hl => inRange_of_readCoordinate hl, by simp⟩
    · exact ⟨fun l hl => inRange_of_readCoordinate hl, fun c hc => inRange_of_readCoordinate hc⟩
  refine ⟨?_, hcoordinates.1, hcoordinates.2, by simp [hnone]⟩
  rw [Frame.path, hfile]
  simp

theorem Frame.IsRead.named {f : Frame} (hf : f.IsRead) {name : List Char}
    (hname : IsTrimmed name) (hpair : ¬[' ', '('] <:+: name) : (f.named name).IsRead := by
  rw [Frame.named]
  split
  · exact hf
  · rename_i hne
    refine ⟨hf.file, hf.line, hf.column, ?_⟩
    intro other hother
    obtain rfl := Option.some.inj hother
    rw [String.toList_ofList]
    exact ⟨hne, hname, hpair⟩

/-- A frame after the word `at` has its place in parentheses or is nothing but a place. -/
theorem Frame.ofCall?_inversion {s : List Char} {f : Frame} (hf : ofCall? s = some f) :
    (∃ name place, parenthesized? s = some (name, place) ∧ f = (ofPlace place).named (trim name)) ∨
      s ≠ [] ∧ parenthesized? s = none ∧ f = ofPlace s := by
  rw [ofCall?] at hf
  split at hf
  · cases hf
  · rename_i hne
    split at hf
    · rename_i name place hparts
      exact .inl ⟨name, place, hparts, (Option.some.inj hf).symm⟩
    · rename_i hparts
      exact .inr ⟨hne, hparts, (Option.some.inj hf).symm⟩

theorem Frame.ofMark?_inversion {s : List Char} {f : Frame} (hf : ofMark? s = some f) :
    ∃ name place, s = name ++ '@' :: place ∧ (∀ c ∈ name, isBlank c = false) ∧
      (ofPlace place).line ≠ none ∧ f = (ofPlace place).named name := by
  simp only [ofMark?, Option.bind_eq_bind, Option.bind_eq_some_iff] at hf
  obtain ⟨⟨name, place⟩, hcut, hf⟩ := hf
  split at hf
  · cases hf
  · rename_i hshown
    rw [not_or] at hshown
    refine ⟨name, place, eq_of_cut?_eq_some hcut, ?_, ?_, (Option.some.inj hf).symm⟩
    · simpa using hshown.1
    · simpa using hshown.2

theorem Frame.isRead_of_ofCall? {s : List Char} {f : Frame} (hf : ofCall? s = some f) :
    f.IsRead := by
  rcases ofCall?_inversion hf with ⟨name, place, hparts, rfl⟩ | ⟨-, -, rfl⟩
  · obtain ⟨after, -, -, hpair⟩ := parenthesized?_inversion hparts
    exact (isRead_ofPlace place).named (isTrimmed_trim name)
      fun hoccurs => hpair (hoccurs.trans (trim_isInfix name))
  · exact isRead_ofPlace s

theorem Frame.isRead_of_ofMark? {s : List Char} {f : Frame} (hf : ofMark? s = some f) :
    f.IsRead := by
  obtain ⟨name, place, -, hshown, -, rfl⟩ := ofMark?_inversion hf
  have htrimmed : IsTrimmed name :=
    ⟨fun c hc => hshown c (List.mem_of_head? hc), fun c hc => hshown c (List.mem_of_getLast? hc)⟩
  apply (isRead_ofPlace place).named htrimmed
  intro hoccurs
  have hspace := hshown ' ' (hoccurs.subset (by simp))
  exact absurd hspace (by decide)

theorem Frame.isRead_of_ofLine? {line : List Char} {f : Frame} (hf : ofLine? line = some f) :
    f.IsRead := by
  simp only [ofLine?] at hf
  split at hf
  · exact isRead_of_ofCall? hf
  · exact isRead_of_ofMark? hf

/-! ## Reading back what was read -/

theorem exists_line_of_mem_read {stack : String} {limit : Nat} {f : Frame}
    (hf : f ∈ read stack limit) : ∃ line, '\n' ∉ line ∧ Frame.ofLine? line = some f := by
  rw [read_eq] at hf
  obtain ⟨line, hline, hread⟩ := List.mem_filterMap.mp (List.mem_of_mem_take hf)
  exact ⟨line, not_mem_of_mem_splitOn hline, hread⟩

theorem framesOf_write_of_not_mem {frames : List Frame}
    (hframes : ∀ f ∈ frames, '\n' ∉ f.chars) :
    framesOf (write frames none).toList =
      frames.filterMap fun f => Frame.ofLine? f.write.toList := by
  rw [framesOf_write, List.filterMap_eq_flatMap_toList]
  exact List.flatMap_congr fun f hf => framesOf_of_not_mem (Frame.not_mem_write (hframes f hf))

/-- Frames that were read are read back as they are if and only if all of them are legible. -/
theorem read_write_read_iff (stack : String) (limit : Nat) :
    read (write (read stack limit) none) limit = read stack limit ↔
      ∀ f ∈ read stack limit, f.Legible := by
  have hbreak : ∀ f ∈ read stack limit, '\n' ∉ f.chars := by
    intro f hf hmem
    obtain ⟨line, hline, hread⟩ := exists_line_of_mem_read hf
    exact hline (Frame.ofLine?_chars_subset hread hmem)
  have hlimit : (read stack limit).length ≤ limit := by
    rw [read_eq]
    exact List.length_take_le _ _
  have hback : read (write (read stack limit) none) limit =
      (read stack limit).filterMap fun f => Frame.ofLine? f.write.toList := by
    rw [read_eq (write _ none), framesOf_write_of_not_mem hbreak, List.take_of_length_le]
    exact (List.length_filterMap_le _ _).trans hlimit
  rw [hback]
  have hmap := List.filterMap_eq_map_iff_forall_eq_some
    (f := fun f : Frame => Frame.ofLine? f.write.toList) (g := id) (l := read stack limit)
  rw [List.map_id] at hmap
  rw [hmap]
  apply forall₂_congr
  intro f hf
  obtain ⟨line, -, hread⟩ := exists_line_of_mem_read hf
  exact (Frame.isRead_of_ofLine? hread).ofLine?_write_iff

end ErrorOrigin.Stack
