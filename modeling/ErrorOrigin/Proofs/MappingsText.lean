import ErrorOrigin.Proofs.TextCuts
import ErrorOrigin.Proofs.VlqText
import ErrorOrigin.SourceMap.Mappings
import Mathlib.Tactic

/-!
# Reading back written mappings

A table of segments is written as differences to running totals, and the reader adds them up
again.  The invariant is that writer and reader hold the same totals, each a coordinate of the
table or zero; hence no difference is too large for twelve letters and no sum too large for a word.
-/

namespace ErrorOrigin.SourceMap

/-- A number whose difference to any other of its kind can be written. -/
def IsCoordinate (i : Int) : Prop :=
  0 ≤ i ∧ i < 2 ^ 59

structure Anchor.Writable (a : Anchor) : Prop where
  source : IsCoordinate a.source
  line : IsCoordinate a.line
  column : IsCoordinate a.column
  name : ∀ n ∈ a.name, IsCoordinate n

structure Segment.Writable (s : Segment) : Prop where
  column : IsCoordinate s.column
  anchor : ∀ a ∈ s.anchor, a.Writable

structure Totals.Writable (t : Totals) : Prop where
  source : IsCoordinate t.source
  line : IsCoordinate t.line
  column : IsCoordinate t.column
  name : IsCoordinate t.name

theorem isCoordinate_zero : IsCoordinate 0 := by
  simp [IsCoordinate]

theorem Totals.zero_writable : Totals.zero.Writable :=
  ⟨isCoordinate_zero, isCoordinate_zero, isCoordinate_zero, isCoordinate_zero⟩

theorem IsCoordinate.natAbs_sub_lt {i j : Int} (hi : IsCoordinate i)
    (hj : IsCoordinate j) : (i - j).natAbs < 2 ^ 59 := by
  obtain ⟨hi0, hi1⟩ := hi
  obtain ⟨hj0, hj1⟩ := hj
  omega

theorem IsCoordinate.fitsWord {i : Int} (hi : IsCoordinate i) : fitsWord i = true := by
  obtain ⟨hi0, hi1⟩ := hi
  simp only [SourceMap.fitsWord, Bool.and_eq_true, decide_eq_true_eq]
  omega

theorem advance_sub {line : Nat} {total next : Int} (hnext : IsCoordinate next) :
    advance line total (next - total) = .ok next := by
  have hsum : total + (next - total) = next := by omega
  rw [advance, hsum, if_pos hnext.fitsWord]

/-! ## One segment -/

theorem nextSegment_numbers (line : Nat) {t : Totals} {s : Segment} (column : Int)
    (hs : s.Writable) :
    nextSegment line t column (s.numbers t column).1 = .ok (s, (s.numbers t column).2) := by
  obtain ⟨start, anchor⟩ := s
  have hcolumn : advance line column (start - column) = .ok start :=
    advance_sub hs.column
  cases anchor with
  | none => simp [Segment.numbers, nextSegment, hcolumn, bind, Except.bind, pure, Except.pure]
  | some a =>
      have ha := hs.anchor a rfl
      have hnext : t.next line (a.source - t.source) (a.line - t.line)
          (a.column - t.column) = .ok ⟨a.source, a.line, a.column, t.name⟩ := by
        simp [Totals.next, advance_sub ha.source, advance_sub ha.line,
          advance_sub ha.column, bind, Except.bind, pure, Except.pure]
      obtain ⟨source, sourceLine, sourceColumn, name⟩ := a
      cases name with
      | none =>
          simp [Segment.numbers, nextSegment, hcolumn, hnext, bind, Except.bind, pure,
            Except.pure]
      | some n =>
          have hname : advance line t.name (n - t.name) = .ok n :=
            advance_sub (ha.name n rfl)
          simp [Segment.numbers, nextSegment, hcolumn, hnext, hname, bind, Except.bind, pure,
            Except.pure]

theorem numbers_totals_writable {t : Totals} {s : Segment} (column : Int)
    (ht : t.Writable) (hs : s.Writable) : (s.numbers t column).2.Writable := by
  obtain ⟨start, anchor⟩ := s
  cases anchor with
  | none => exact ht
  | some a =>
      have ha := hs.anchor a rfl
      refine ⟨ha.source, ha.line, ha.column, ?_⟩
      change IsCoordinate (a.name.getD t.name)
      cases hname : a.name with
      | none => exact ht.name
      | some n => exact ha.name n hname

theorem natAbs_numbers_lt {t : Totals} {s : Segment} {column : Int}
    (ht : t.Writable) (hcolumn : IsCoordinate column) (hs : s.Writable) :
    ∀ i ∈ (s.numbers t column).1, i.natAbs < 2 ^ 59 := by
  obtain ⟨start, anchor⟩ := s
  have hstart := hs.column.natAbs_sub_lt hcolumn
  cases anchor with
  | none => simpa [Segment.numbers] using hstart
  | some a =>
      have ha := hs.anchor a rfl
      have hsource := ha.source.natAbs_sub_lt ht.source
      have hline := ha.line.natAbs_sub_lt ht.line
      have hsourceColumn := ha.column.natAbs_sub_lt ht.column
      intro i hi
      simp only [Segment.numbers, List.cons_append, List.nil_append, List.mem_cons,
        Option.mem_toList, Option.map_eq_some_iff] at hi
      rcases hi with rfl | rfl | rfl | rfl | ⟨n, hn, rfl⟩
      · exact hstart
      · exact hsource
      · exact hline
      · exact hsourceColumn
      · exact (ha.name n hn).natAbs_sub_lt ht.name

theorem numbers_ne_nil (t : Totals) (s : Segment) (column : Int) :
    (s.numbers t column).1 ≠ [] := by
  obtain ⟨start, anchor⟩ := s
  cases anchor <;> simp [Segment.numbers]

theorem encodeSegments_totals_writable {t : Totals} {segments : List Segment} (column : Int)
    (ht : t.Writable) (hsegments : ∀ s ∈ segments, s.Writable) :
    (encodeSegments t column segments).2.Writable := by
  induction segments generalizing t column with
  | nil => exact ht
  | cons s rest ih =>
      rw [encodeSegments]
      exact ih s.column
        (numbers_totals_writable column ht (hsegments s List.mem_cons_self))
        (fun r hr => hsegments r (List.mem_cons_of_mem s hr))

theorem decodeSegments_encodeSegments (line : Nat) {t : Totals} {column : Int}
    {segments : List Segment} (ht : t.Writable) (hcolumn : IsCoordinate column)
    (hsegments : ∀ s ∈ segments, s.Writable) :
    decodeSegments line t column (encodeSegments t column segments).1 =
      .ok (segments, (encodeSegments t column segments).2) := by
  induction segments generalizing t column with
  | nil => rfl
  | cons s rest ih =>
      have hs := hsegments s List.mem_cons_self
      have hread := Vlq.decode_encode (natAbs_numbers_lt ht hcolumn hs)
      have hnext := nextSegment_numbers line (t := t) column hs
      have htail := ih (numbers_totals_writable column ht hs) hs.column
        (fun r hr => hsegments r (List.mem_cons_of_mem s hr))
      rw [encodeSegments]
      simp [decodeSegments, hread, hnext, htail, Except.mapError, bind, Except.bind, pure,
        Except.pure]

theorem mem_alphabet_of_mem_encodeSegments {t : Totals} {column : Int}
    {segments : List Segment} {text : List Char} {c : Char}
    (htext : text ∈ (encodeSegments t column segments).1) (hc : c ∈ text) :
    c ∈ Vlq.alphabet := by
  induction segments generalizing t column with
  | nil => simp [encodeSegments] at htext
  | cons s rest ih =>
      rw [encodeSegments] at htext
      rcases List.mem_cons.mp htext with rfl | htext
      · exact Vlq.mem_alphabet_of_mem_encode hc
      · exact ih htext

theorem ne_nil_of_mem_encodeSegments {t : Totals} {column : Int}
    {segments : List Segment} {text : List Char}
    (htext : text ∈ (encodeSegments t column segments).1) : text ≠ [] := by
  induction segments generalizing t column with
  | nil => simp [encodeSegments] at htext
  | cons s rest ih =>
      rw [encodeSegments] at htext
      rcases List.mem_cons.mp htext with rfl | htext
      · exact Vlq.encode_ne_nil (numbers_ne_nil t s column)
      · exact ih htext

/-- A line without segments is an empty text, which is one empty piece. -/
theorem filter_splitOn_intercalate {texts : List (List Char)}
    (hcomma : ∀ text ∈ texts, ',' ∉ text) (hempty : ∀ text ∈ texts, text ≠ []) :
    (([','].intercalate texts).splitOn ',').filter (· ≠ []) = texts := by
  cases texts with
  | nil => rfl
  | cons text rest =>
      rw [List.splitOn_intercalate ',' hcomma (List.cons_ne_nil text rest)]
      exact List.filter_eq_self.mpr fun piece hpiece => by simpa using hempty piece hpiece

/-! ## All lines -/

theorem not_mem_alphabet_comma : ',' ∉ Vlq.alphabet := by
  decide

theorem not_mem_alphabet_semicolon : ';' ∉ Vlq.alphabet := by
  decide

theorem decodeLines_encodeLines (line : Nat) {t : Totals} {table : List (List Segment)}
    (ht : t.Writable) (htable : ∀ segments ∈ table, ∀ s ∈ segments, s.Writable) :
    decodeLines line t (encodeLines t table) = .ok table := by
  induction table generalizing line t with
  | nil => rfl
  | cons segments rest ih =>
      have hsegments := htable segments List.mem_cons_self
      have hcomma : ∀ text ∈ (encodeSegments t 0 segments).1, ',' ∉ text := by
        intro text htext hc
        exact not_mem_alphabet_comma (mem_alphabet_of_mem_encodeSegments htext hc)
      have hpieces := filter_splitOn_intercalate hcomma
        fun text htext => ne_nil_of_mem_encodeSegments htext
      have hread :=
        decodeSegments_encodeSegments line ht isCoordinate_zero hsegments
      have htail := ih (line + 1) (encodeSegments_totals_writable 0 ht hsegments)
        (fun other hother => htable other (List.mem_cons_of_mem segments hother))
      rw [encodeLines, decodeLines, hpieces, hread]
      simp only [bind, Except.bind]
      rw [htail]
      rfl

theorem not_mem_encodeLines {t : Totals} {table : List (List Segment)} {text : List Char}
    (htext : text ∈ encodeLines t table) : ';' ∉ text := by
  induction table generalizing t with
  | nil => simp [encodeLines] at htext
  | cons segments rest ih =>
      rw [encodeLines] at htext
      rcases List.mem_cons.mp htext with rfl | htext
      · intro hc
        rcases Text.mem_of_mem_intercalate hc with hseparator | ⟨piece, hpiece, hc⟩
        · simp at hseparator
        · exact not_mem_alphabet_semicolon
            (mem_alphabet_of_mem_encodeSegments hpiece hc)
      · exact ih htext

/-- A table without lines is written as the empty text, which has one line. -/
theorem decodeMappings_encodeMappings {table : List (List Segment)}
    (htable : ∀ segments ∈ table, ∀ s ∈ segments, s.Writable) :
    decodeMappings (encodeMappings table) = .ok (if table = [] then [[]] else table) := by
  rw [decodeMappings, encodeMappings, String.toList_ofList]
  cases table with
  | nil => rfl
  | cons segments rest =>
      have hlines : encodeLines Totals.zero (segments :: rest) ≠ [] := by
        simp [encodeLines]
      rw [List.splitOn_intercalate ';' (fun _ htext => not_mem_encodeLines htext) hlines,
        decodeLines_encodeLines 0 Totals.zero_writable htable]
      simp

-- Only the generated column starts again on the second line.
example :
    encodeMappings
        [[⟨0, some ⟨0, 0, 0, none⟩⟩, ⟨4, some ⟨0, 0, 4, none⟩⟩],
          [⟨0, some ⟨0, 1, 4, none⟩⟩]] =
      "AAAA,IAAI;AACA" := by
  cbv

end ErrorOrigin.SourceMap
