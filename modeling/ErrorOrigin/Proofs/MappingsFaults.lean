import ErrorOrigin.Proofs.VlqText
import ErrorOrigin.SourceMap.Trace
import Mathlib.Tactic

/-!
# Which mappings can be traced

A segment is judged by itself and by the exact sums over all segments before it.  The decoder holds
these sums as its totals, so it accepts a text of sound segments, and stops at the first offending
one with the fault of that segment.
-/

namespace ErrorOrigin.SourceMap

/-- A segment as it stands in the text, on a line counted from zero. -/
structure WrittenSegment where
  line : Nat
  text : List Char

/-- The segments of some lines, the first of which has this number; empty ones do not count. -/
def writtenFrom (line : Nat) (lines : List (List Char)) : List WrittenSegment :=
  (lines.zipIdx line).flatMap fun numbered =>
    ((numbered.1.splitOn ',').filter (· ≠ [])).map (WrittenSegment.mk numbered.2)

def writtenSegments (mappings : String) : List WrittenSegment :=
  writtenFrom 0 (mappings.toList.splitOn ';')

/-- The exact sum of the numbers at one place of each segment, where it has one there. -/
def sumAt (place : Nat) (segments : List WrittenSegment) : Int :=
  (segments.map fun s => (Vlq.numbers s.text).getD place 0).sum

/-- The exact generated column after some segments, which only those of its line add to. -/
def columnAfter (line : Nat) (segments : List WrittenSegment) : Int :=
  sumAt 0 (segments.filter (·.line = line))

/-- The sums of source, line, column and name. -/
def SumsFit (segments : List WrittenSegment) : Prop :=
  ∀ place ∈ [1, 2, 3, 4], fitsWord (sumAt place segments) = true

structure WrittenSegment.Sound (before : List WrittenSegment) (s : WrittenSegment) : Prop where
  spelled : Vlq.Spelled s.text
  column : fitsWord (columnAfter s.line (before ++ [s])) = true
  fields : (Vlq.numbers s.text).length ∈ [1, 4, 5]
  sums : SumsFit (before ++ [s])

/-- What is wrong with a segment; of several faults the first in this order. -/
inductive WrittenSegment.Offence (before : List WrittenSegment) (s : WrittenSegment) :
    TraceError → Prop
  | spelling {fault : Vlq.Fault} (hfault : Vlq.Offends s.text fault) :
      Offence before s (TraceError.ofFault s.line fault)
  | column (hspelled : Vlq.Spelled s.text)
      (hcolumn : fitsWord (columnAfter s.line (before ++ [s])) = false) :
      Offence before s (.overflow s.line)
  | fields (hspelled : Vlq.Spelled s.text)
      (hcolumn : fitsWord (columnAfter s.line (before ++ [s])) = true)
      (hfields : (Vlq.numbers s.text).length ∉ [1, 4, 5]) :
      Offence before s (.invalidSegment (Vlq.numbers s.text).length s.line)
  | sums (hspelled : Vlq.Spelled s.text)
      (hcolumn : fitsWord (columnAfter s.line (before ++ [s])) = true)
      (hfields : (Vlq.numbers s.text).length ∈ [1, 4, 5])
      (hsums : ¬ SumsFit (before ++ [s])) :
      Offence before s (.overflow s.line)

def SoundFrom (before segments : List WrittenSegment) : Prop :=
  ∀ earlier s later, segments = earlier ++ s :: later → s.Sound (before ++ earlier)

def OffenceFrom (before segments : List WrittenSegment) (e : TraceError) : Prop :=
  ∃ earlier s later, segments = earlier ++ s :: later ∧
    SoundFrom before earlier ∧ s.Offence (before ++ earlier) e

/-- Every segment is sound. -/
def WellFormed (mappings : String) : Prop :=
  SoundFrom [] (writtenSegments mappings)

/-- This is what is wrong with the first segment that is not sound. -/
def FirstOffence (mappings : String) (e : TraceError) : Prop :=
  OffenceFrom [] (writtenSegments mappings) e

theorem sumAt_append (place : Nat) (segments others : List WrittenSegment) :
    sumAt place (segments ++ others) = sumAt place segments + sumAt place others := by
  simp [sumAt]

theorem sumAt_singleton (place : Nat) (s : WrittenSegment) :
    sumAt place [s] = (Vlq.numbers s.text).getD place 0 := by
  simp [sumAt]

theorem columnAfter_append (before : List WrittenSegment) (s : WrittenSegment) :
    columnAfter s.line (before ++ [s]) =
      columnAfter s.line before + (Vlq.numbers s.text).getD 0 0 := by
  rw [columnAfter, List.filter_append, sumAt_append]
  simp [columnAfter, sumAt_singleton]

theorem columnAfter_new_line {before : List WrittenSegment} {line : Nat}
    (hbefore : ∀ s ∈ before, s.line < line) : columnAfter line before = 0 := by
  have hnone : before.filter (·.line = line) = [] := by
    rw [List.filter_eq_nil_iff]
    intro s hs
    have hlt := hbefore s hs
    simp only [decide_eq_true_eq]
    omega
  rw [columnAfter, hnone]
  rfl

/-! ## Judging segment by segment -/

theorem soundFrom_nil (before : List WrittenSegment) : SoundFrom before [] := by
  intro earlier s later hsplit
  simp at hsplit

theorem soundFrom_cons {before rest : List WrittenSegment} {s : WrittenSegment} :
    SoundFrom before (s :: rest) ↔ s.Sound before ∧ SoundFrom (before ++ [s]) rest := by
  constructor
  · intro hsound
    refine ⟨by simpa using hsound [] s rest rfl, ?_⟩
    intro earlier r later hsplit
    have hr := hsound (s :: earlier) r later (by rw [hsplit]; rfl)
    simpa using hr
  · rintro ⟨hs, hrest⟩ earlier r later hsplit
    cases earlier with
    | nil =>
        obtain ⟨rfl, rfl⟩ := List.cons.inj hsplit
        simpa using hs
    | cons first earlier =>
        obtain ⟨rfl, htail⟩ := List.cons.inj hsplit
        simpa using hrest earlier r later htail

theorem offenceFrom_cons {before rest : List WrittenSegment} {s : WrittenSegment}
    {e : TraceError} :
    OffenceFrom before (s :: rest) e ↔
      s.Offence before e ∨ s.Sound before ∧ OffenceFrom (before ++ [s]) rest e := by
  constructor
  · rintro ⟨earlier, r, later, hsplit, hsound, hoffence⟩
    cases earlier with
    | nil =>
        obtain ⟨rfl, rfl⟩ := List.cons.inj hsplit
        exact .inl (by simpa using hoffence)
    | cons first earlier =>
        obtain ⟨rfl, htail⟩ := List.cons.inj hsplit
        obtain ⟨hs, hearlier⟩ := soundFrom_cons.mp hsound
        exact .inr ⟨hs, earlier, r, later, htail, hearlier, by simpa using hoffence⟩
  · rintro (hoffence | ⟨hs, earlier, r, later, hsplit, hsound, hoffence⟩)
    · exact ⟨[], s, rest, rfl, soundFrom_nil before, by simpa using hoffence⟩
    · refine ⟨s :: earlier, r, later, by rw [hsplit]; rfl, ?_, by simpa using hoffence⟩
      exact soundFrom_cons.mpr ⟨hs, hsound⟩

theorem soundFrom_append {before segments others : List WrittenSegment} :
    SoundFrom before (segments ++ others) ↔
      SoundFrom before segments ∧ SoundFrom (before ++ segments) others := by
  induction segments generalizing before with
  | nil => simp [soundFrom_nil]
  | cons s rest ih =>
      rw [List.cons_append, soundFrom_cons, soundFrom_cons, ih, and_assoc,
        List.append_assoc, List.singleton_append]

theorem offenceFrom_append {before segments others : List WrittenSegment} {e : TraceError} :
    OffenceFrom before (segments ++ others) e ↔
      OffenceFrom before segments e ∨
        SoundFrom before segments ∧ OffenceFrom (before ++ segments) others e := by
  induction segments generalizing before with
  | nil =>
      have hnone : ¬ OffenceFrom before [] e := by
        rintro ⟨earlier, s, later, hsplit, -⟩
        simp at hsplit
      simp [soundFrom_nil, hnone]
  | cons s rest ih =>
      rw [List.cons_append, offenceFrom_cons, offenceFrom_cons, soundFrom_cons, ih,
        List.append_assoc, List.singleton_append]
      tauto

theorem WrittenSegment.sound_or_offence (before : List WrittenSegment) (s : WrittenSegment) :
    s.Sound before ∨ ∃ e, s.Offence before e := by
  rcases Vlq.spelled_or_offends s.text with hspelled | ⟨fault, hfault⟩
  · by_cases hcolumn : fitsWord (columnAfter s.line (before ++ [s])) = true
    · by_cases hfields : (Vlq.numbers s.text).length ∈ [1, 4, 5]
      · by_cases hsums : SumsFit (before ++ [s])
        · exact .inl ⟨hspelled, hcolumn, hfields, hsums⟩
        · exact .inr ⟨_, .sums hspelled hcolumn hfields hsums⟩
      · exact .inr ⟨_, .fields hspelled hcolumn hfields⟩
    · exact .inr ⟨_, .column hspelled (Bool.eq_false_iff.mpr hcolumn)⟩
  · exact .inr ⟨_, .spelling hfault⟩

theorem sound_or_offence_from (before segments : List WrittenSegment) :
    SoundFrom before segments ∨ ∃ e, OffenceFrom before segments e := by
  induction segments generalizing before with
  | nil => exact .inl (soundFrom_nil before)
  | cons s rest ih =>
      rcases s.sound_or_offence before with hs | ⟨e, he⟩
      · rcases ih (before ++ [s]) with hrest | ⟨e, he⟩
        · exact .inl (soundFrom_cons.mpr ⟨hs, hrest⟩)
        · exact .inr ⟨e, offenceFrom_cons.mpr (.inr ⟨hs, he⟩)⟩
      · exact .inr ⟨e, offenceFrom_cons.mpr (.inl he)⟩

/-- The totals of the decoder are the exact sums. -/
def totalsAfter (segments : List WrittenSegment) : Totals :=
  ⟨sumAt 1 segments, sumAt 2 segments, sumAt 3 segments, sumAt 4 segments⟩

/-- The totals moved on by the numbers of a segment, which may have fewer than five. -/
def Totals.add (t : Totals) (numbers : List Int) : Totals :=
  ⟨t.source + numbers.getD 1 0, t.line + numbers.getD 2 0, t.column + numbers.getD 3 0,
    t.name + numbers.getD 4 0⟩

structure Totals.Fits (t : Totals) : Prop where
  source : fitsWord t.source = true
  line : fitsWord t.line = true
  column : fitsWord t.column = true
  name : fitsWord t.name = true

theorem totalsAfter_append (before : List WrittenSegment) (s : WrittenSegment) :
    totalsAfter (before ++ [s]) = (totalsAfter before).add (Vlq.numbers s.text) := by
  simp [totalsAfter, Totals.add, sumAt_append, sumAt_singleton]

theorem sumsFit_iff {segments : List WrittenSegment} :
    SumsFit segments ↔ (totalsAfter segments).Fits := by
  constructor
  · intro hsums
    exact ⟨hsums 1 (by simp), hsums 2 (by simp), hsums 3 (by simp), hsums 4 (by simp)⟩
  · rintro ⟨hsource, hline, hcolumn, hname⟩ place hplace
    simp only [List.mem_cons, List.not_mem_nil, or_false] at hplace
    rcases hplace with rfl | rfl | rfl | rfl
    · exact hsource
    · exact hline
    · exact hcolumn
    · exact hname

theorem sumsFit_nil : SumsFit [] :=
  sumsFit_iff.mpr ⟨rfl, rfl, rfl, rfl⟩

theorem advance_of_fits {line : Nat} {total delta : Int}
    (hfits : fitsWord (total + delta) = true) :
    advance line total delta = .ok (total + delta) := by
  rw [advance, if_pos hfits]

theorem advance_of_not_fits {line : Nat} {total delta : Int}
    (hfits : ¬ fitsWord (total + delta) = true) :
    advance line total delta = .error (.overflow line) := by
  rw [advance, if_neg hfits]

theorem Totals.next_of_fits {line : Nat} {t : Totals} {source sourceLine column : Int}
    (hsource : fitsWord (t.source + source) = true)
    (hline : fitsWord (t.line + sourceLine) = true)
    (hcolumn : fitsWord (t.column + column) = true) :
    t.next line source sourceLine column =
      .ok ⟨t.source + source, t.line + sourceLine, t.column + column, t.name⟩ := by
  rw [Totals.next, advance_of_fits hsource, advance_of_fits hline, advance_of_fits hcolumn]
  rfl

theorem Totals.next_of_not_fits {line : Nat} {t : Totals} {source sourceLine column : Int}
    (hfits : ¬ (fitsWord (t.source + source) = true ∧ fitsWord (t.line + sourceLine) = true ∧
      fitsWord (t.column + column) = true)) :
    t.next line source sourceLine column = .error (.overflow line) := by
  rw [Totals.next]
  by_cases hsource : fitsWord (t.source + source) = true
  · by_cases hline : fitsWord (t.line + sourceLine) = true
    · have hcolumn : ¬ fitsWord (t.column + column) = true :=
        fun hcolumn => hfits ⟨hsource, hline, hcolumn⟩
      rw [advance_of_fits hsource, advance_of_fits hline, advance_of_not_fits hcolumn]
      rfl
    · rw [advance_of_fits hsource, advance_of_not_fits hline]
      rfl
  · rw [advance_of_not_fits hsource]
    rfl

theorem headD_eq_getD (numbers : List Int) : numbers.headD 0 = numbers.getD 0 0 := by
  cases numbers <;> rfl

theorem nextSegment_of_column {line : Nat} {column : Int} {numbers : List Int} (t : Totals)
    (hcolumn : ¬ fitsWord (column + numbers.getD 0 0) = true) :
    nextSegment line t column numbers = .error (.overflow line) := by
  rw [nextSegment, headD_eq_getD, advance_of_not_fits hcolumn]
  rfl

theorem nextSegment_of_fields {line : Nat} {column : Int} {numbers : List Int} (t : Totals)
    (hcolumn : fitsWord (column + numbers.getD 0 0) = true)
    (hfields : numbers.length ∉ [1, 4, 5]) :
    nextSegment line t column numbers = .error (.invalidSegment numbers.length line) := by
  rw [nextSegment, headD_eq_getD, advance_of_fits hcolumn]
  simp only [bind, Except.bind]
  split
  · simp at hfields
  · simp at hfields
  · simp at hfields
  · rfl

theorem numbers_cases {numbers : List Int} (hfields : numbers.length ∈ [1, 4, 5]) :
    (∃ a, numbers = [a]) ∨ (∃ a b c d, numbers = [a, b, c, d]) ∨
      ∃ a b c d e, numbers = [a, b, c, d, e] := by
  simp only [List.mem_cons, List.not_mem_nil, or_false] at hfields
  rcases hfields with hlength | hlength | hlength
  · exact .inl (List.length_eq_one_iff.mp hlength)
  · match numbers, hlength with
    | [a, b, c, d], _ => exact .inr (.inl ⟨a, b, c, d, rfl⟩)
  · match numbers, hlength with
    | [a, b, c, d, e], _ => exact .inr (.inr ⟨a, b, c, d, e, rfl⟩)

theorem nextSegment_of_fits (line : Nat) {column : Int} {numbers : List Int} {t : Totals}
    (hcolumn : fitsWord (column + numbers.getD 0 0) = true)
    (hfields : numbers.length ∈ [1, 4, 5]) (hfits : (t.add numbers).Fits) :
    ∃ anchor, nextSegment line t column numbers =
      .ok (⟨column + numbers.getD 0 0, anchor⟩, t.add numbers) := by
  rcases numbers_cases hfields with ⟨a, rfl⟩ | ⟨a, b, c, d, rfl⟩ | ⟨a, b, c, d, e, rfl⟩
  · refine ⟨none, ?_⟩
    rw [nextSegment, headD_eq_getD, advance_of_fits hcolumn]
    simp [Totals.add, bind, Except.bind, pure, Except.pure]
  · refine ⟨some ⟨t.source + b, t.line + c, t.column + d, none⟩, ?_⟩
    have hnext : t.next line b c d = .ok ⟨t.source + b, t.line + c, t.column + d, t.name⟩ :=
      Totals.next_of_fits hfits.source hfits.line hfits.column
    rw [nextSegment, headD_eq_getD, advance_of_fits hcolumn]
    simp [hnext, Totals.add, bind, Except.bind, pure, Except.pure]
  · refine ⟨some ⟨t.source + b, t.line + c, t.column + d, some (t.name + e)⟩, ?_⟩
    have hnext : t.next line b c d = .ok ⟨t.source + b, t.line + c, t.column + d, t.name⟩ :=
      Totals.next_of_fits hfits.source hfits.line hfits.column
    have hname : advance line t.name e = .ok (t.name + e) := advance_of_fits hfits.name
    rw [nextSegment, headD_eq_getD, advance_of_fits hcolumn]
    simp [hnext, hname, Totals.add, bind, Except.bind, pure, Except.pure]

theorem nextSegment_of_not_fits {line : Nat} {column : Int} {numbers : List Int} {t : Totals}
    (hcolumn : fitsWord (column + numbers.getD 0 0) = true)
    (hfields : numbers.length ∈ [1, 4, 5]) (ht : t.Fits) (hfits : ¬ (t.add numbers).Fits) :
    nextSegment line t column numbers = .error (.overflow line) := by
  rw [nextSegment, headD_eq_getD, advance_of_fits hcolumn]
  simp only [bind, Except.bind]
  rcases numbers_cases hfields with ⟨a, rfl⟩ | ⟨a, b, c, d, rfl⟩ | ⟨a, b, c, d, e, rfl⟩
  · exact (hfits (by simpa [Totals.add] using ht)).elim
  · have hnext : ¬ (fitsWord (t.source + b) = true ∧ fitsWord (t.line + c) = true ∧
        fitsWord (t.column + d) = true) := by
      rintro ⟨hb, hc, hd⟩
      exact hfits ⟨hb, hc, hd, by simpa [Totals.add] using ht.name⟩
    simp only
    rw [Totals.next_of_not_fits hnext]
  · simp only
    by_cases hnext : fitsWord (t.source + b) = true ∧ fitsWord (t.line + c) = true ∧
        fitsWord (t.column + d) = true
    · have hname : ¬ fitsWord (t.name + e) = true :=
        fun he => hfits ⟨hnext.1, hnext.2.1, hnext.2.2, he⟩
      rw [Totals.next_of_fits hnext.1 hnext.2.1 hnext.2.2]
      simp only
      rw [advance_of_not_fits hname]
    · rw [Totals.next_of_not_fits hnext]

/-! ## One line -/

/-- What the decoder does at a sound segment: it moves on to the sums after it. -/
theorem decodeSegments_cons_of_sound {before : List WrittenSegment} {s : WrittenSegment}
    (rest : List (List Char)) (hs : s.Sound before) :
    ∃ segment, decodeSegments s.line (totalsAfter before) (columnAfter s.line before)
        (s.text :: rest) =
      (decodeSegments s.line (totalsAfter (before ++ [s]))
        (columnAfter s.line (before ++ [s])) rest).map fun read => (segment :: read.1, read.2) := by
  have hread := Vlq.decode_of_spelled hs.spelled
  have hcolumn := hs.column
  have hfits := sumsFit_iff.mp hs.sums
  rw [columnAfter_append] at hcolumn
  rw [totalsAfter_append] at hfits
  obtain ⟨anchor, hnext⟩ := nextSegment_of_fits s.line hcolumn hs.fields hfits
  refine ⟨⟨columnAfter s.line before + (Vlq.numbers s.text).getD 0 0, anchor⟩, ?_⟩
  rw [decodeSegments, hread, columnAfter_append, totalsAfter_append]
  simp only [Except.mapError, bind, Except.bind, hnext]
  cases decodeSegments s.line ((totalsAfter before).add (Vlq.numbers s.text))
    (columnAfter s.line before + (Vlq.numbers s.text).getD 0 0) rest <;> rfl

theorem decodeSegments_cons_of_offence {before : List WrittenSegment} {s : WrittenSegment}
    {e : TraceError} (rest : List (List Char)) (hbefore : SumsFit before)
    (he : s.Offence before e) :
    decodeSegments s.line (totalsAfter before) (columnAfter s.line before) (s.text :: rest) =
      .error e := by
  have hfits := sumsFit_iff.mp hbefore
  cases he with
  | spelling hfault =>
      rw [decodeSegments, Vlq.decode_of_offends hfault]
      rfl
  | column hspelled hcolumn =>
      rw [columnAfter_append, ← Bool.not_eq_true] at hcolumn
      rw [decodeSegments, Vlq.decode_of_spelled hspelled]
      simp only [Except.mapError, bind, Except.bind]
      rw [nextSegment_of_column _ hcolumn]
  | fields hspelled hcolumn hfields =>
      rw [columnAfter_append] at hcolumn
      rw [decodeSegments, Vlq.decode_of_spelled hspelled]
      simp only [Except.mapError, bind, Except.bind]
      rw [nextSegment_of_fields _ hcolumn hfields]
  | sums hspelled hcolumn hfields hsums =>
      rw [columnAfter_append] at hcolumn
      rw [sumsFit_iff, totalsAfter_append] at hsums
      rw [decodeSegments, Vlq.decode_of_spelled hspelled]
      simp only [Except.mapError, bind, Except.bind]
      rw [nextSegment_of_not_fits hcolumn hfields hfits hsums]

theorem decodeSegments_of_sound {line : Nat} {before : List WrittenSegment}
    {texts : List (List Char)}
    (hsound : SoundFrom before (texts.map (WrittenSegment.mk line))) :
    ∃ segments, decodeSegments line (totalsAfter before) (columnAfter line before) texts =
      .ok (segments, totalsAfter (before ++ texts.map (WrittenSegment.mk line))) := by
  induction texts generalizing before with
  | nil => exact ⟨[], by simp [decodeSegments]⟩
  | cons text rest ih =>
      rw [List.map_cons] at hsound
      obtain ⟨hs, hrest⟩ := soundFrom_cons.mp hsound
      obtain ⟨segment, hstep⟩ := decodeSegments_cons_of_sound rest hs
      obtain ⟨segments, htail⟩ := ih hrest
      refine ⟨segment :: segments, ?_⟩
      rw [hstep, htail, List.map_cons, List.append_assoc, List.singleton_append]
      rfl

theorem decodeSegments_of_offence {line : Nat} {before : List WrittenSegment}
    {texts : List (List Char)} {e : TraceError} (hbefore : SumsFit before)
    (he : OffenceFrom before (texts.map (WrittenSegment.mk line)) e) :
    decodeSegments line (totalsAfter before) (columnAfter line before) texts = .error e := by
  induction texts generalizing before with
  | nil =>
      obtain ⟨earlier, s, later, hsplit, -⟩ := he
      simp at hsplit
  | cons text rest ih =>
      rw [List.map_cons, offenceFrom_cons] at he
      rcases he with he | ⟨hs, he⟩
      · exact decodeSegments_cons_of_offence rest hbefore he
      · obtain ⟨segment, hstep⟩ := decodeSegments_cons_of_sound rest hs
        have htail := ih hs.sums he
        rw [hstep, htail]
        rfl

/-! ## All lines -/

theorem writtenFrom_cons (line : Nat) (text : List Char) (rest : List (List Char)) :
    writtenFrom line (text :: rest) =
      ((text.splitOn ',').filter (· ≠ [])).map (WrittenSegment.mk line) ++
        writtenFrom (line + 1) rest := by
  simp [writtenFrom]

theorem line_of_mem_texts {line : Nat} {texts : List (List Char)} {s : WrittenSegment}
    (hs : s ∈ texts.map (WrittenSegment.mk line)) : s.line = line := by
  obtain ⟨text, -, rfl⟩ := List.mem_map.mp hs
  rfl

theorem SoundFrom.sumsFit {before segments : List WrittenSegment} (hbefore : SumsFit before)
    (hsound : SoundFrom before segments) : SumsFit (before ++ segments) := by
  rcases List.eq_nil_or_concat' segments with rfl | ⟨earlier, s, rfl⟩
  · simpa using hbefore
  · simpa using (hsound earlier s [] rfl).sums

theorem line_lt_of_mem_append {line : Nat} {before : List WrittenSegment}
    {texts : List (List Char)} (hbefore : ∀ s ∈ before, s.line < line) :
    ∀ s ∈ before ++ texts.map (WrittenSegment.mk line), s.line < line + 1 := by
  intro s hs
  rcases List.mem_append.mp hs with hs | hs
  · have hlt := hbefore s hs
    omega
  · rw [line_of_mem_texts hs]
    omega

theorem decodeLines_of_sound {line : Nat} {before : List WrittenSegment}
    {lines : List (List Char)} (hbefore : ∀ s ∈ before, s.line < line)
    (hsound : SoundFrom before (writtenFrom line lines)) :
    ∃ table, decodeLines line (totalsAfter before) lines = .ok table := by
  induction lines generalizing line before with
  | nil => exact ⟨[], rfl⟩
  | cons text rest ih =>
      rw [writtenFrom_cons] at hsound
      obtain ⟨hline, hrest⟩ := soundFrom_append.mp hsound
      obtain ⟨segments, hread⟩ := decodeSegments_of_sound hline
      obtain ⟨table, htail⟩ := ih (line_lt_of_mem_append hbefore) hrest
      rw [columnAfter_new_line hbefore] at hread
      refine ⟨segments :: table, ?_⟩
      rw [decodeLines, hread]
      simp only [bind, Except.bind]
      rw [htail]
      rfl

theorem decodeLines_of_offence {line : Nat} {before : List WrittenSegment}
    {lines : List (List Char)} {e : TraceError} (hbefore : ∀ s ∈ before, s.line < line)
    (hfits : SumsFit before) (he : OffenceFrom before (writtenFrom line lines) e) :
    decodeLines line (totalsAfter before) lines = .error e := by
  induction lines generalizing line before with
  | nil =>
      obtain ⟨earlier, s, later, hsplit, -⟩ := he
      simp [writtenFrom] at hsplit
  | cons text rest ih =>
      rw [writtenFrom_cons, offenceFrom_append] at he
      rcases he with he | ⟨hline, he⟩
      · have hread := decodeSegments_of_offence hfits he
        rw [columnAfter_new_line hbefore] at hread
        rw [decodeLines, hread]
        rfl
      · obtain ⟨segments, hread⟩ := decodeSegments_of_sound hline
        have htail := ih (line_lt_of_mem_append hbefore) (hline.sumsFit hfits) he
        rw [columnAfter_new_line hbefore] at hread
        rw [decodeLines, hread]
        simp only [bind, Except.bind]
        rw [htail]

theorem decodeMappings_of_wellFormed {mappings : String} (hmappings : WellFormed mappings) :
    ∃ table, decodeMappings mappings = .ok table :=
  decodeLines_of_sound (by simp) hmappings

theorem decodeMappings_of_firstOffence {mappings : String} {e : TraceError}
    (he : FirstOffence mappings e) : decodeMappings mappings = .error e :=
  decodeLines_of_offence (by simp) sumsFit_nil he

theorem wellFormed_or_firstOffence (mappings : String) :
    WellFormed mappings ∨ ∃ e, FirstOffence mappings e :=
  sound_or_offence_from [] (writtenSegments mappings)

theorem trace_eq_error_of_version {m : SourceMap} (hversion : m.version ≠ 3) :
    m.trace = .error (.unsupportedVersion m.version) := by
  rw [trace, if_pos hversion]

theorem trace_of_wellFormed {m : SourceMap} (hversion : m.version = 3)
    (hmappings : WellFormed m.mappings) : ∃ t, m.trace = .ok t := by
  obtain ⟨table, htable⟩ := decodeMappings_of_wellFormed hmappings
  exact ⟨_, by rw [trace, if_neg (not_not_intro hversion), htable]; rfl⟩

theorem trace_of_firstOffence {m : SourceMap} {e : TraceError} (hversion : m.version = 3)
    (he : FirstOffence m.mappings e) : m.trace = .error e := by
  rw [trace, if_neg (not_not_intro hversion), decodeMappings_of_firstOffence he]
  rfl

/-- A map can be traced exactly when it has version 3 and every segment of it is sound.  Otherwise
the error is that of the version, and if the version is 3 that of the first offending segment.
Whatever the text, the values collected on the way to a number have at most 60 bits. -/
theorem trace_ok_iff_wellFormed (m : SourceMap) :
    ((∃ t, m.trace = .ok t) ↔ m.version = 3 ∧ WellFormed m.mappings) ∧
      (∀ e, m.trace = .error e ↔
        (m.version ≠ 3 ∧ e = .unsupportedVersion m.version) ∨
          (m.version = 3 ∧ FirstOffence m.mappings e)) ∧
      ∀ s ∈ writtenSegments m.mappings,
        (∀ value ∈ Vlq.collected [] s.text, value < 2 ^ 60) ∧
          ∀ list, Vlq.decode s.text = .ok list →
            list ⊆ (Vlq.collected [] s.text).map Vlq.ofSigned := by
  have houtcome :
      (∀ t, m.trace = .ok t ↔
        (m.version = 3 ∧ WellFormed m.mappings) ∧ m.trace = .ok t) ∧
      ∀ e, m.trace = .error e ↔
        (m.version ≠ 3 ∧ e = .unsupportedVersion m.version) ∨
          (m.version = 3 ∧ FirstOffence m.mappings e) := by
    apply outcome_iff
    · exact fun t ht => ht.2
    · rintro e (⟨hversion, rfl⟩ | ⟨hversion, he⟩)
      · exact trace_eq_error_of_version hversion
      · exact trace_of_firstOffence hversion he
    · by_cases hversion : m.version = 3
      · rcases wellFormed_or_firstOffence m.mappings with hmappings | ⟨e, he⟩
        · obtain ⟨t, ht⟩ := trace_of_wellFormed hversion hmappings
          exact .inl ⟨t, ⟨hversion, hmappings⟩, ht⟩
        · exact .inr ⟨e, .inr ⟨hversion, he⟩⟩
      · exact .inr ⟨_, .inl ⟨hversion, rfl⟩⟩
  refine ⟨⟨?_, ?_⟩, houtcome.2, ?_⟩
  · rintro ⟨t, ht⟩
    exact ((houtcome.1 t).mp ht).1
  · rintro ⟨hversion, hmappings⟩
    exact trace_of_wellFormed hversion hmappings
  · intro s _
    refine ⟨Vlq.collected_lt (by simp), ?_⟩
    intro list hread
    exact Vlq.subset_map_collected hread

theorem firstOffence_of_two_numbers :
    let m : SourceMap := { SourceMap.empty with version := 3, mappings := "AAAA;C,AA,A*" }
    m.trace = .error (.invalidSegment 2 1) ∧ FirstOffence m.mappings (.invalidSegment 2 1) := by
  intro m
  have hread : m.trace = .error (.invalidSegment 2 1) := by
    decide +kernel
  rcases ((trace_ok_iff_wellFormed m).2.1 _).mp hread with ⟨hother, -⟩ | ⟨-, he⟩
  · exact absurd rfl hother
  · exact ⟨hread, he⟩

end ErrorOrigin.SourceMap
