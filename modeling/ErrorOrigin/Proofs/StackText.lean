import ErrorOrigin.Stack.Reader
import ErrorOrigin.Stack.Writer
import Mathlib.Tactic

/-!
# Stacks as text

Whether a line is a frame depends on nothing but the line, and a carriage return at its end is
trimmed away.  So the frames of a text are those of its pieces between line feeds, and the frames
of texts that are joined by line feeds are those of each in turn.  What a frame was read from has
no line feed, and then the line on which the frame is written has none.
-/

namespace ErrorOrigin

namespace Text

theorem trim_append_blank {c : Char} (hc : isBlank c = true) (s : List Char) :
    trim (s ++ [c]) = trim s := by
  rw [trim, trim, strip, strip, List.dropWhile_append]
  by_cases hs : s.dropWhile isBlank = []
  · simp [hs, hc]
  · simp [hs, hc]

theorem trim_dropReturn (s : List Char) : trim (dropReturn s) = trim s := by
  rw [dropReturn]
  split
  · rename_i hlast
    have hs : s.dropLast ++ ['\r'] = s := List.dropLast_append_getLast? '\r' hlast
    conv_rhs => rw [← hs]
    exact (trim_append_blank (by decide) s.dropLast).symm
  · rfl

theorem trim_subset (s : List Char) : trim s ⊆ s := by
  rw [trim_eq_trimEnd_trimStart]
  intro c hc
  have hstart : c ∈ trimStart s :=
    List.mem_reverse.mp ((List.dropWhile_sublist _).subset (List.mem_reverse.mp hc))
  exact (List.dropWhile_sublist _).subset hstart

theorem eq_of_cutLast?_eq_some {sep : Char} {s before after : List Char}
    (h : cutLast? sep s = some (before, after)) : s = before ++ sep :: after := by
  rw [cutLast?, Option.map_eq_some_iff] at h
  obtain ⟨⟨back, front⟩, hcut, heq⟩ := h
  obtain ⟨rfl, rfl⟩ := Prod.mk.inj heq
  have hs := congrArg List.reverse (eq_of_cut?_eq_some hcut)
  simpa using hs

theorem eq_of_cutText?_eq_some {sep s before after : List Char}
    (h : cutText? sep s = some (before, after)) : s = before ++ (sep ++ after) := by
  induction s generalizing before with
  | nil =>
      rw [cutText?] at h
      split at h
      · rename_i hsep
        cases h
        simp [hsep]
      · cases h
  | cons c rest ih =>
      rw [cutText?] at h
      split at h
      · rename_i hstart
        cases h
        have hs := eq_of_dropStart?_eq_some hstart
        exact hs
      · obtain ⟨⟨front, back⟩, hcut, heq⟩ := Option.map_eq_some_iff.mp h
        obtain ⟨rfl, rfl⟩ := Prod.mk.inj heq
        rw [ih hcut, List.cons_append]

theorem not_mem_of_mem_splitOn {sep : Char} {s piece : List Char}
    (hpiece : piece ∈ s.splitOn sep) : sep ∉ piece := by
  induction s generalizing piece with
  | nil =>
      obtain rfl : piece = [] := by simpa using hpiece
      exact List.not_mem_nil
  | cons c rest ih =>
      rw [List.splitOn_cons_eq_if_modifyHead] at hpiece
      split at hpiece
      · rcases List.mem_cons.mp hpiece with rfl | hpiece
        · exact List.not_mem_nil
        · exact ih hpiece
      · rename_i hne
        obtain ⟨first, others, hsplit⟩ :=
          List.exists_cons_of_ne_nil (List.splitOn_ne_nil sep rest)
        rw [hsplit, List.modifyHead_cons, List.mem_cons] at hpiece
        rcases hpiece with rfl | hpiece
        · have hfirst : sep ∉ first := ih (hsplit ▸ List.mem_cons_self)
          have hc : sep ≠ c := fun heq => hne (by simp [heq])
          simp [hc, hfirst]
        · exact ih (hsplit ▸ List.mem_cons_of_mem first hpiece)

theorem dropReturn_subset (s : List Char) : dropReturn s ⊆ s := by
  rw [dropReturn]
  split
  · exact List.dropLast_subset s
  · exact List.Subset.refl s

theorem not_mem_of_mem_lines {s line : List Char} (hline : line ∈ lines s) : '\n' ∉ line := by
  rcases List.mem_append.mp hline with hfront | hlast
  · obtain ⟨piece, hpiece, rfl⟩ := List.mem_map.mp hfront
    exact fun hmem =>
      not_mem_of_mem_splitOn (List.mem_of_mem_dropLast hpiece) (dropReturn_subset piece hmem)
  · have hpiece := List.mem_of_mem_filter hlast
    rw [Option.mem_toList] at hpiece
    exact not_mem_of_mem_splitOn (List.mem_of_getLast? hpiece)

theorem dropLast_append_toList_getLast? {α : Type} (list : List α) :
    list.dropLast ++ list.getLast?.toList = list := by
  cases hlast : list.getLast? with
  | none => simp [List.getLast?_eq_none_iff.mp hlast]
  | some a => exact List.dropLast_append_getLast? a hlast

end Text

namespace Stack

open Text

def framesOf (s : List Char) : List Frame :=
  (s.splitOn '\n').filterMap Frame.ofLine?

theorem Frame.ofLine?_dropReturn (line : List Char) :
    ofLine? (dropReturn line) = ofLine? line := by
  rw [ofLine?, ofLine?, trim_dropReturn]

theorem Frame.ofLine?_nil : ofLine? [] = none := by
  decide

theorem filterMap_lines (s : List Char) : (lines s).filterMap Frame.ofLine? = framesOf s := by
  have hfront (pieces : List (List Char)) :
      (pieces.map dropReturn).filterMap Frame.ofLine? = pieces.filterMap Frame.ofLine? := by
    rw [List.filterMap_map]
    exact List.filterMap_congr fun line _ => Frame.ofLine?_dropReturn line
  have hlast (piece : Option (List Char)) :
      (piece.toList.filter (· ≠ [])).filterMap Frame.ofLine? =
        piece.toList.filterMap Frame.ofLine? := by
    cases piece with
    | none => rfl
    | some piece =>
        by_cases hpiece : piece = []
        · subst piece
          simp [Frame.ofLine?_nil]
        · simp [hpiece]
  rw [lines, List.filterMap_append, hfront, hlast, ← List.filterMap_append,
    dropLast_append_toList_getLast?, framesOf]

theorem read_eq (stack : String) (limit : Nat) :
    read stack limit = (framesOf stack.toList).take limit := by
  rw [read, filterMap_lines]

theorem framesOf_append (s t : List Char) :
    framesOf (s ++ '\n' :: t) = framesOf s ++ framesOf t := by
  rw [framesOf, List.splitOn_append_cons_self, List.filterMap_append]
  rfl

theorem framesOf_of_not_mem {s : List Char} (hs : '\n' ∉ s) :
    framesOf s = (Frame.ofLine? s).toList := by
  rw [framesOf, List.splitOn_eq_singleton hs]
  cases hframe : Frame.ofLine? s <;> simp [hframe]

theorem framesOf_intercalate (texts : List (List Char)) :
    framesOf (['\n'].intercalate texts) = texts.flatMap framesOf := by
  induction texts with
  | nil => rfl
  | cons text rest ih =>
      by_cases hrest : rest = []
      · subst rest
        simp
      · rw [List.intercalate_cons_of_ne_nil hrest, List.append_assoc, List.singleton_append,
          framesOf_append, ih, List.flatMap_cons]

/-- The frames of a written stack are those of its header and of the line of each frame. -/
theorem framesOf_write (frames : List Frame) (header : Option Header) :
    framesOf (write frames header).toList =
      (header.toList.flatMap fun h => framesOf h.write.toList) ++
        frames.flatMap fun f => framesOf f.write.toList := by
  rw [write, String.toList_intercalate]
  have hbreak : "\n".toList = ['\n'] := rfl
  rw [hbreak, framesOf_intercalate]
  cases header <;> simp [List.flatMap_map, Function.comp_def]

/-! ## What a frame was read from -/

def Frame.chars (f : Frame) : List Char :=
  (f.file.getD "").toList ++ (f.function.getD "").toList

theorem Frame.ofPlace_chars_subset (s : List Char) : (ofPlace s).chars ⊆ s := by
  rw [ofPlace]
  split
  · simp [chars]
  · rename_i front last hcut
    have hs : s = front ++ ':' :: last := eq_of_cutLast?_eq_some hcut
    have hfront : front ⊆ s := by
      rw [hs]
      exact List.subset_append_left front (':' :: last)
    split
    · simp [chars]
    · split
      · rename_i file middle hcutFront
        have hfile : file ⊆ front := by
          rw [eq_of_cutLast?_eq_some hcutFront]
          exact List.subset_append_left file (':' :: middle)
        split
        · simpa [chars] using List.Subset.trans hfile hfront
        · simpa [chars] using hfront
      · simpa [chars] using hfront

theorem Frame.ofPlace_function (s : List Char) : (ofPlace s).function = none := by
  rw [ofPlace]
  split
  · rfl
  · split
    · rfl
    · split
      · split <;> rfl
      · rfl

theorem Frame.named_chars_subset {f : Frame} {function s : List Char}
    (hnone : f.function = none) (hf : f.chars ⊆ s) (hfunction : function ⊆ s) :
    (f.named function).chars ⊆ s := by
  rw [named]
  split
  · exact hf
  · have hfile : (f.file.getD "").toList ⊆ s := by
      simpa [chars, hnone] using hf
    simp [chars, hfile, hfunction]

theorem Frame.ofCall?_chars_subset {s : List Char} {f : Frame} (hf : ofCall? s = some f) :
    f.chars ⊆ s := by
  rw [ofCall?] at hf
  split at hf
  · cases hf
  · split at hf
    · rename_i function place hparenthesized
      cases hf
      rw [parenthesized?] at hparenthesized
      split at hparenthesized
      · obtain ⟨⟨before, after⟩, hcut, heq⟩ := Option.map_eq_some_iff.mp hparenthesized
        obtain ⟨rfl, rfl⟩ := Prod.mk.inj heq
        have hs : s = before ++ ([' ', '('] ++ after) := eq_of_cutText?_eq_some hcut
        have hbefore : before ⊆ s := by
          rw [hs]
          exact List.subset_append_left _ _
        have hafter : after.dropLast ⊆ s := by
          rw [hs]
          intro c hc
          simp [List.dropLast_subset after hc]
        exact named_chars_subset (ofPlace_function _)
          (List.Subset.trans (ofPlace_chars_subset _) hafter)
          (List.Subset.trans (trim_subset _) hbefore)
      · cases hparenthesized
    · cases hf
      exact ofPlace_chars_subset s

theorem Frame.ofMark?_chars_subset {s : List Char} {f : Frame} (hf : ofMark? s = some f) :
    f.chars ⊆ s := by
  simp only [ofMark?, Option.bind_eq_bind, Option.bind_eq_some_iff] at hf
  obtain ⟨⟨function, place⟩, hcut, hf⟩ := hf
  split at hf
  · cases hf
  · cases hf
    have hs : s = function ++ '@' :: place := eq_of_cut?_eq_some hcut
    have hfunction : function ⊆ s := by
      rw [hs]
      exact List.subset_append_left _ _
    have hplace : place ⊆ s := by
      rw [hs]
      intro c hc
      simp [hc]
    exact named_chars_subset (ofPlace_function _)
      (List.Subset.trans (ofPlace_chars_subset _) hplace) hfunction

theorem Frame.ofLine?_chars_subset {line : List Char} {f : Frame}
    (hf : ofLine? line = some f) : f.chars ⊆ line := by
  simp only [ofLine?] at hf
  split at hf
  · rename_i rest hrest
    have hafter : trim rest ⊆ trim line := by
      rw [eq_of_dropStart?_eq_some hrest]
      exact List.Subset.trans (trim_subset rest) (List.subset_append_right _ _)
    have hline : trim rest ⊆ line := List.Subset.trans hafter (trim_subset line)
    exact List.Subset.trans (ofCall?_chars_subset hf) hline
  · exact List.Subset.trans (ofMark?_chars_subset hf) (trim_subset line)

/-! ## The line of a frame -/

theorem toList_toString_int (n : Int) :
    (toString n).toList =
      if 0 ≤ n then Nat.toDigits 10 n.toNat else '-' :: Nat.toDigits 10 (-n).toNat := by
  rw [Int.toString_eq_repr, Int.repr_eq_if]
  split <;> simp

theorem not_mem_toString_int {c : Char} (hdigit : c.isDigit = false) (hsign : c ≠ '-') (n : Int) :
    c ∉ (toString n).toList := by
  have hnat : ∀ m : Nat, c ∉ Nat.toDigits 10 m := by
    intro m hmem
    have hc := Nat.isDigit_of_mem_toDigits (by decide) (by decide) hmem
    rw [hdigit] at hc
    cases hc
  rw [toList_toString_int]
  split <;> simp [hnat, hsign]

theorem not_mem_writePlace {file : Option String} (hfile : '\n' ∉ (file.getD "").toList)
    (line column : Option Int) : '\n' ∉ (writePlace file line column).toList := by
  have hname : '\n' ∉ (file.getD "<anonymous>").toList := by
    cases file with
    | none => decide
    | some file => exact hfile
  unfold writePlace
  cases line with
  | none => simpa using hname
  | some l =>
      have hl := not_mem_toString_int (c := '\n') (by decide) (by decide) l
      cases column with
      | none => simpa [hname] using hl
      | some c =>
          have hc := not_mem_toString_int (c := '\n') (by decide) (by decide) c
          simpa [hname] using And.intro hl hc

theorem Frame.not_mem_write {f : Frame} (hf : '\n' ∉ f.chars) : '\n' ∉ f.write.toList := by
  rw [chars, List.mem_append, not_or] at hf
  have hplace := not_mem_writePlace hf.1 f.line f.column
  rw [Frame.write]
  cases hfunction : f.function with
  | none => simp [hplace]
  | some function =>
      have hname : '\n' ∉ function.toList := by
        simpa [hfunction] using hf.2
      simp [hplace, hname]

/-- A frame that is read back from what is written of it alone is the one frame of its line. -/
theorem framesOf_write_of_read {f : Frame} (hf : read (write [f] none) 1 = [f]) :
    framesOf f.write.toList = [f] := by
  have hwrite : framesOf (write [f] none).toList = framesOf f.write.toList := by
    rw [framesOf_write]
    simp
  rw [read_eq, hwrite] at hf
  have hmem : f ∈ framesOf f.write.toList :=
    List.mem_of_mem_take (hf ▸ List.mem_singleton_self f)
  obtain ⟨line, hline, hread⟩ := List.mem_filterMap.mp hmem
  -- The frame was read from a piece between line feeds, so its texts have none.
  have hbreak : '\n' ∉ f.chars := by
    intro hmem
    exact not_mem_of_mem_splitOn hline (Frame.ofLine?_chars_subset hread hmem)
  rw [framesOf_of_not_mem (Frame.not_mem_write hbreak)] at hf ⊢
  cases hframe : Frame.ofLine? f.write.toList with
  | none => simp [hframe] at hf
  | some g => simpa [hframe] using hf

/-- Frames that are each read back alone are read back together, below a header without frames. -/
theorem read_write {frames : List Frame} {header : Option Header} {limit : Nat}
    (hframes : ∀ f ∈ frames, read (write [f] none) 1 = [f])
    (hheader : ∀ h, header = some h → read h.write limit = [])
    (hlimit : frames.length ≤ limit) : read (write frames header) limit = frames := by
  have hlines : (frames.flatMap fun f => framesOf f.write.toList) = frames := by
    have hpure := List.flatMap_congr fun f hf => framesOf_write_of_read (hframes f hf)
    rw [hpure]
    exact List.flatMap_singleton' frames
  rw [read_eq, framesOf_write, hlines]
  cases header with
  | none => simpa using hlimit
  | some h =>
      have hnone := hheader h rfl
      rw [read_eq, List.take_eq_nil_iff] at hnone
      rcases hnone with rfl | hnone
      · obtain rfl : frames = [] := List.length_eq_zero_iff.mp (by omega)
        simp
      · simpa [hnone] using hlimit

end Stack

end ErrorOrigin
