import ErrorOrigin.Proofs.LegibleFrames
import Mathlib.Data.List.Infix
import Mathlib.Tactic

/-!
# Frames of plain lines

Two things in a line can make its frame illegible: a numeral that is too great for a frame, since
it is dropped and what stands before it moves up, and a blank between an at sign and a file without
a function.  The frames of lines that have neither are read back as they were.
-/

namespace ErrorOrigin.Stack

open Text

/-- Every numeral in the text is one that a frame can hold. -/
def HoldsNumerals (s : List Char) : Prop :=
  ∀ digits, digits <:+: s → isNumeral digits = true →
    Nat.ofDigitChars 10 digits 0 ≤ Frame.greatest

instance (s : List Char) : Decidable (HoldsNumerals s) :=
  decidable_of_iff
    (∀ t ∈ s.tails, ∀ digits ∈ t.inits, isNumeral digits = true →
      Nat.ofDigitChars 10 digits 0 ≤ Frame.greatest) <| by
    simp only [HoldsNumerals, List.infix_iff_prefix_suffix, List.mem_tails, List.mem_inits]
    exact ⟨fun hall digits ⟨t, hstart, hend⟩ => hall t hend digits hstart,
      fun hall t hend digits hstart => hall digits ⟨t, hstart, hend⟩⟩

/-- A line without great numerals and without a blank right after an at sign at its start. -/
structure IsPlain (line : List Char) : Prop where
  numerals : HoldsNumerals line
  mark : (trim line).head? = some '@' → (trim line).tail.head?.any isBlank = false

instance (line : List Char) : Decidable (IsPlain line) :=
  decidable_of_iff
    (HoldsNumerals line ∧
      ((trim line).head? = some '@' → (trim line).tail.head?.any isBlank = false))
    ⟨fun hline => ⟨hline.1, hline.2⟩, fun hline => ⟨hline.numerals, hline.mark⟩⟩

theorem HoldsNumerals.mono {s t : List Char} (hs : HoldsNumerals s) (ht : t <:+: s) :
    HoldsNumerals t :=
  fun digits hdigits => hs digits (hdigits.trans ht)

theorem HoldsNumerals.readCoordinate_ne_none {s digits : List Char} (hs : HoldsNumerals s)
    (hdigits : digits <:+: s) (hnumeral : isNumeral digits = true) :
    readCoordinate digits ≠ none := by
  have hle := hs digits hdigits hnumeral
  simp [readCoordinate, readNumeral?, hnumeral, hle]

theorem Frame.path_mk (s : List Char) (line column : Option Int) (function : Option String) :
    Frame.path ⟨String.ofList s, line, column, function⟩ = s :=
  String.toList_ofList

/-- Without great numerals only what is no place has no line. -/
theorem HoldsNumerals.ofPlace {s : List Char} (hs : HoldsNumerals s) :
    ((Frame.ofPlace s).line = none →
        (Frame.ofPlace s).column = none ∧ (Frame.ofPlace s).path = s) ∧
      ((Frame.ofPlace s).column = none → ¬EndsInNumeral (Frame.ofPlace s).path) := by
  rcases Frame.ofPlace_cases s with ⟨hends, hplace⟩ |
    ⟨front, last, hsplit, hlast, hends, hplace⟩ |
    ⟨file, middle, last, hsplit, hmiddle, hlast, hplace⟩ <;>
    rw [hplace, Frame.path_mk]
  · exact ⟨fun _ => ⟨rfl, rfl⟩, fun _ => hends⟩
  · have hread := hs.readCoordinate_ne_none (hsplit ▸ ⟨front ++ [':'], [], by simp⟩) hlast
    exact ⟨fun hnone => absurd hnone hread, fun _ => hends⟩
  · have hmiddleRead :=
      hs.readCoordinate_ne_none (hsplit ▸ ⟨file ++ [':'], ':' :: last, by simp⟩) hmiddle
    have hlastRead := hs.readCoordinate_ne_none
      (hsplit ▸ ⟨file ++ ':' :: middle ++ [':'], [], by simp⟩) hlast
    exact ⟨fun hnone => absurd hnone hmiddleRead, fun hnone => absurd hnone hlastRead⟩

theorem Frame.path_ofPlace_isPrefix (s : List Char) : (ofPlace s).path <+: s := by
  obtain ⟨path, hfile, hstart⟩ := file_ofPlace s
  rw [Frame.path, hfile]
  simpa using hstart

theorem Frame.legible_named {f : Frame} {name : List Char} (hne : name ≠ [])
    (hcolumn : f.line = none → f.column = none) (hpath : f.column = none → ¬EndsInNumeral f.path) :
    (f.named name).Legible := by
  rw [named, if_neg hne]
  refine ⟨hcolumn, hpath, ?_, ?_⟩
  · intro hnone
    cases hnone
  · intro hnone
    cases hnone

theorem infix_of_parenthesized?_eq_some {s name place : List Char}
    (hparts : parenthesized? s = some (name, place)) : place <:+: s := by
  obtain ⟨after, rfl, rfl, -⟩ := parenthesized?_inversion hparts
  have hafter : after <:+ name ++ ' ' :: '(' :: after := ⟨name ++ [' ', '('], by simp⟩
  exact (List.dropLast_prefix after).isInfix.trans hafter.isInfix

/-- The file of a place has no blank before it if the place has none. -/
theorem Frame.head_path_ofPlace {s : List Char} (hs : ∀ c ∈ s.head?, isBlank c = false) :
    ∀ c ∈ (ofPlace s).path.head?, isBlank c = false := by
  obtain ⟨rest, hrest⟩ := path_ofPlace_isPrefix s
  intro c hc
  apply hs c
  rw [← hrest, List.head?_append, Option.mem_def.mp hc]
  rfl

theorem Frame.legible_of_ofCall? {s : List Char} {f : Frame} (hs : HoldsNumerals s)
    (htrimmed : IsTrimmed s) (hf : ofCall? s = some f) : f.Legible := by
  rcases ofCall?_inversion hf with ⟨name, place, hparts, rfl⟩ | ⟨hne, hparts, rfl⟩
  · obtain ⟨hcolumn, hpath⟩ := (hs.mono (infix_of_parenthesized?_eq_some hparts)).ofPlace
    exact legible_named (trim_ne_nil_of_parenthesized htrimmed hparts)
      (fun hline => (hcolumn hline).1) hpath
  · obtain ⟨hcolumn, hpath⟩ := hs.ofPlace
    refine ⟨fun hline => (hcolumn hline).1, hpath, fun _ => head_path_ofPlace htrimmed.head, ?_⟩
    intro _ hline
    rw [(hcolumn hline).2]
    exact ⟨hne, htrimmed.last, parenthesized?_eq_none_iff.mp hparts⟩

theorem Frame.legible_of_ofMark? {s : List Char} {f : Frame} (hs : HoldsNumerals s)
    (hmark : s.head? = some '@' → s.tail.head?.any isBlank = false)
    (hf : ofMark? s = some f) : f.Legible := by
  obtain ⟨name, place, rfl, -, hline, rfl⟩ := ofMark?_inversion hf
  have hoccurs : place <:+: name ++ '@' :: place := ⟨name ++ ['@'], [], by simp⟩
  obtain ⟨hcolumn, hpath⟩ := (hs.mono hoccurs).ofPlace
  by_cases hname : name = []
  · subst name
    rw [named, if_pos rfl]
    refine ⟨fun hnone => absurd hnone hline, hpath, ?_, fun _ hnone => absurd hnone hline⟩
    intro _
    apply head_path_ofPlace
    intro c hc
    have hshown := hmark rfl
    rw [List.nil_append, List.tail_cons, Option.mem_def.mp hc] at hshown
    exact hshown
  · exact legible_named hname (fun hnone => absurd hnone hline) hpath

theorem Frame.legible_of_ofLine? {line : List Char} {f : Frame} (hline : IsPlain line)
    (hf : ofLine? line = some f) : f.Legible := by
  have htrim := hline.numerals.mono (trim_isInfix line)
  simp only [ofLine?] at hf
  split at hf
  · rename_i rest hrest
    have hafter : trim rest <:+: trim line := by
      rw [eq_of_dropStart?_eq_some hrest]
      exact (trim_isInfix rest).trans (List.suffix_append _ rest).isInfix
    exact legible_of_ofCall? (htrim.mono hafter) (isTrimmed_trim rest) hf
  · exact legible_of_ofMark? htrim hline.mark hf

/-- Reading, writing and reading again gives the same frames if and only if all frames are legible,
and the frames of plain lines are. -/
theorem read_write_read (stack : String) (limit : Nat) :
    (read (write (read stack limit) none) limit = read stack limit ↔
      ∀ f ∈ read stack limit, f.Legible) ∧
    ((∀ line ∈ lines stack.toList, IsPlain line) →
      read (write (read stack limit) none) limit = read stack limit) := by
  refine ⟨read_write_read_iff stack limit, ?_⟩
  intro hplain
  rw [read_write_read_iff]
  intro f hf
  obtain ⟨line, hline, hread⟩ := List.mem_filterMap.mp (List.mem_of_mem_take hf)
  exact Frame.legible_of_ofLine? (hplain line hline) hread

theorem read_write_read_two_dialects :
    let stack := "Error: no\n  at run (a b.js:7:42)\n at (c.js)\n@d.js:10\nf@:e:2:3\r\n"
    (∀ line ∈ lines stack.toList, IsPlain line) ∧ (read stack 50).length = 4 ∧
      read (write (read stack 50) none) 50 = read stack 50 := by
  intro stack
  have hplain : ∀ line ∈ lines stack.toList, IsPlain line := by
    decide +kernel
  exact ⟨hplain, by decide, (read_write_read stack 50).2 hplain⟩

/-- The blank behind the at sign is trimmed away the second time. -/
theorem read_write_read_blank_file :
    ¬∀ (stack : String) (limit : Nat),
      read (write (read stack limit) none) limit = read stack limit := by
  intro hsame
  have hblank := hsame "@ foo:1:2" 50
  revert hblank
  decide

end ErrorOrigin.Stack
