import ErrorOrigin.Proofs.LegibleFrames
import Mathlib.Tactic

/-!
# Reading a written stack

A frame with a line and a column is read back from its own line whatever its file is like, because
a place is taken apart from the right and the parentheses around it are looked for from the left.
The line of a header is never read as a frame: its first word ends in a colon, or is all of it, and
a frame of either dialect begins otherwise.
-/

namespace ErrorOrigin.Stack

open Text

/-- The name is one word without an at sign, and the message is on one line. -/
structure Header.IsOneLine (h : Header) : Prop where
  name : ∀ c ∈ h.name.toList, isBlank c = false ∧ c ≠ '@'
  message : '\n' ∉ h.message.toList

theorem Header.toList_write_of_message {h : Header} (hmessage : h.message ≠ "") :
    h.write.toList = h.name.toList ++ ':' :: ' ' :: h.message.toList := by
  rw [write, if_neg hmessage]
  simp

namespace Header.IsOneLine

variable {h : Header}

theorem not_mem_name (hh : h.IsOneLine) {c : Char} (hc : isBlank c = true ∨ c = '@') :
    c ∉ h.name.toList := by
  intro hmem
  obtain ⟨hshown, hmark⟩ := hh.name c hmem
  rcases hc with hblank | hsame
  · rw [hshown] at hblank
    cases hblank
  · exact hmark hsame

theorem not_mem_write (hh : h.IsOneLine) : '\n' ∉ h.write.toList := by
  have hname : '\n' ∉ h.name.toList := hh.not_mem_name (.inl (by decide))
  by_cases hmessage : h.message = ""
  · rwa [Header.write, if_pos hmessage]
  · rw [Header.toList_write_of_message hmessage]
    simp [hname, hh.message]

theorem head_write (hh : h.IsOneLine) : ∀ c ∈ h.write.toList.head?, isBlank c = false := by
  have hname : ∀ c ∈ h.name.toList.head?, isBlank c = false := fun c hc =>
    (hh.name c (List.mem_of_mem_head? hc)).1
  by_cases hmessage : h.message = ""
  · rwa [Header.write, if_pos hmessage]
  · rw [Header.toList_write_of_message hmessage, List.head?_append]
    cases hhead : h.name.toList.head? with
    | none =>
        intro c hc
        cases hc
        decide
    | some first =>
        intro c hc
        cases hc
        exact hname first hhead

theorem trim_write_isPrefix (hh : h.IsOneLine) : trim h.write.toList <+: h.write.toList := by
  have hprefix := trim_isPrefix_dropWhile h.write.toList
  rwa [dropWhile_eq_self_of_head hh.head_write] at hprefix

theorem cut?_write (hh : h.IsOneLine) (hmessage : h.message ≠ "") :
    cut? ' ' h.write.toList = some (h.name.toList ++ [':'], h.message.toList) := by
  have hword : ' ' ∉ h.name.toList ++ [':'] := by
    have hname : ' ' ∉ h.name.toList := hh.not_mem_name (.inl (by decide))
    simp [hname]
  have hsplit : h.name.toList ++ ':' :: ' ' :: h.message.toList =
      (h.name.toList ++ [':']) ++ ' ' :: h.message.toList := by
    simp
  rw [Header.toList_write_of_message hmessage, hsplit, cut?_append_cons _ hword]

/-- The first word of a header does not end in a letter and go on after a space. -/
theorem not_at_isPrefix (hh : h.IsOneLine) : ¬['a', 't', ' '] <+: h.write.toList := by
  rintro ⟨rest, hrest⟩
  by_cases hmessage : h.message = ""
  · have hname : ' ' ∉ h.name.toList := hh.not_mem_name (.inl (by decide))
    rw [Header.write, if_pos hmessage] at hrest
    exact hname (hrest ▸ by simp)
  · have hcut := hh.cut?_write hmessage
    have hsplit : ['a', 't', ' '] ++ rest = ['a', 't'] ++ ' ' :: rest := rfl
    rw [← hrest, hsplit, cut?_append_cons rest (by decide), Option.some.injEq,
      Prod.mk.injEq] at hcut
    have hlast := congrArg List.getLast? hcut.1
    rw [List.getLast?_concat] at hlast
    exact absurd hlast (by decide)

/-- An at sign stands behind the first space of a header. -/
theorem mem_of_write_eq (hh : h.IsOneLine) {before rest : List Char}
    (hsplit : h.write.toList = before ++ '@' :: rest) : ' ' ∈ before := by
  have hname : '@' ∉ h.name.toList := hh.not_mem_name (.inr rfl)
  by_cases hmessage : h.message = ""
  · rw [Header.write, if_pos hmessage] at hsplit
    exact absurd (hsplit ▸ by simp) hname
  · by_contra hspace
    have hword : ' ' ∉ before ++ ['@'] := by
      simp [hspace]
    have hcut := hh.cut?_write hmessage
    have hmark : before ++ '@' :: rest = (before ++ ['@']) ++ rest := by
      simp
    rw [hsplit, hmark, cut?_append_of_not_mem hword, Option.map_eq_some_iff] at hcut
    obtain ⟨parts, -, hparts⟩ := hcut
    obtain ⟨hfront, -⟩ := Prod.mk.inj hparts
    have hmem : '@' ∈ h.name.toList ++ [':'] := by
      rw [← hfront]
      simp
    simp [hname] at hmem

theorem ofLine?_write (hh : h.IsOneLine) : Frame.ofLine? h.write.toList = none := by
  obtain ⟨more, hmore⟩ := hh.trim_write_isPrefix
  rw [Option.eq_none_iff_forall_ne_some]
  intro f hf
  simp only [Frame.ofLine?] at hf
  split at hf
  · rename_i rest hrest
    have hstart : ['a', 't', ' '] <+: trim h.write.toList :=
      dropStart?_isSome_iff.mp (by rw [hrest]; rfl)
    exact hh.not_at_isPrefix (hstart.trans hh.trim_write_isPrefix)
  · obtain ⟨before, place, hsplit, hshown, -, -⟩ := Frame.ofMark?_inversion hf
    have hwhole : h.write.toList = before ++ '@' :: (place ++ more) := by
      rw [← hmore, hsplit]
      simp
    exact absurd (hshown ' ' (hh.mem_of_write_eq hwhole)) (by decide)

theorem framesOf_write (hh : h.IsOneLine) : framesOf h.write.toList = [] := by
  rw [framesOf_of_not_mem hh.not_mem_write, hh.ofLine?_write]
  rfl

end Header.IsOneLine

/-! ## Frames -/

/-- The frame has a line and a column that can be read, and its texts are on one line.  Without a
function its file does not start with a blank, and a function is a trimmed text in which no place
in parentheses begins. -/
structure Frame.IsWritable (f : Frame) : Prop where
  file : ∃ file, f.file = some file ∧ '\n' ∉ file.toList
  line : ∃ l, f.line = some l ∧ InRange l
  column : ∃ c, f.column = some c ∧ InRange c
  unnamed : f.function = none → ∀ c ∈ f.path.head?, isBlank c = false
  named : ∀ name, f.function = some name →
    name ≠ "" ∧ '\n' ∉ name.toList ∧ IsTrimmed name.toList ∧ ¬[' ', '('] <:+: name.toList

namespace Frame.IsWritable

variable {f : Frame}

theorem isRead (hf : f.IsWritable) : f.IsRead := by
  obtain ⟨file, hfile, -⟩ := hf.file
  obtain ⟨l, hline, hl⟩ := hf.line
  obtain ⟨c, hcolumn, hc⟩ := hf.column
  refine ⟨?_, ?_, ?_, ?_⟩
  · simp [Frame.path, hfile]
  · intro l' hl'
    cases hline.symm.trans hl'
    exact hl
  · intro c' hc'
    cases hcolumn.symm.trans hc'
    exact hc
  · intro name hname
    obtain ⟨hne, -, htrimmed, hpair⟩ := hf.named name hname
    exact ⟨fun hnil => hne (String.toList_eq_nil_iff.mp hnil), htrimmed, hpair⟩

theorem legible (hf : f.IsWritable) : f.Legible := by
  obtain ⟨l, hline, -⟩ := hf.line
  obtain ⟨c, hcolumn, -⟩ := hf.column
  exact ⟨by simp [hline], by simp [hcolumn], hf.unnamed, by simp [hline]⟩

theorem not_mem_chars (hf : f.IsWritable) : '\n' ∉ f.chars := by
  obtain ⟨file, hfile, hbreak⟩ := hf.file
  rw [Frame.chars, hfile, List.mem_append, not_or]
  refine ⟨hbreak, ?_⟩
  cases hname : f.function with
  | none => simp
  | some name => exact (hf.named name hname).2.1

theorem framesOf_write (hf : f.IsWritable) : framesOf f.write.toList = [f] := by
  rw [framesOf_of_not_mem (Frame.not_mem_write hf.not_mem_chars),
    hf.isRead.ofLine?_write_iff.mpr hf.legible]
  rfl

end Frame.IsWritable

/-! ## Stacks -/

theorem framesOf_write_of_isWritable {frames : List Frame} {header : Option Header}
    (hframes : ∀ f ∈ frames, f.IsWritable) (hheader : ∀ h, header = some h → h.IsOneLine) :
    framesOf (write frames header).toList = frames := by
  have hlines : (frames.flatMap fun f => framesOf f.write.toList) = frames := by
    have hpure := List.flatMap_congr fun f hf => (hframes f hf).framesOf_write
    rw [hpure]
    exact List.flatMap_singleton' frames
  rw [Stack.framesOf_write, hlines]
  cases header with
  | none => rfl
  | some h => simp [(hheader h rfl).framesOf_write]

/-- Reading undoes writing, up to the limit. -/
theorem read_write_of_isWritable {frames : List Frame} {header : Option Header}
    (hframes : ∀ f ∈ frames, f.IsWritable) (hheader : ∀ h, header = some h → h.IsOneLine)
    (limit : Nat) :
    read (write frames header) limit = frames.take limit ∧
      (frames.length ≤ limit → read (write frames header) limit = frames) := by
  have hread : read (write frames header) limit = frames.take limit := by
    rw [read_eq, framesOf_write_of_isWritable hframes hheader]
  refine ⟨hread, ?_⟩
  intro hlimit
  rw [hread, List.take_of_length_le hlimit]

/-- Files with at signs, parentheses and colons, one of them empty, and a function and a message
that look like frames. -/
theorem read_write_of_isWritable_odd_texts :
    let frames : List Frame :=
      [⟨some " a (b):c@d.js:7", some 0, some 9223372036854775807, some "at f(x:1:2)"⟩,
        ⟨some "", some 3, some 9, none⟩, ⟨some "x (y):2)", some 1, some 0, none⟩]
    let header : Header := ⟨"at:", " run (/x.js:1:2) f@y.js:3:4 "⟩
    (∀ f ∈ frames, f.IsWritable) ∧ header.IsOneLine ∧
      read (write frames (some header)) 50 = frames ∧
      read (write frames (some header)) 2 = frames.take 2 := by
  intro frames header
  have hframes : ∀ f ∈ frames, f.IsWritable := by
    intro f hf
    simp only [frames, List.mem_cons, List.not_mem_nil, or_false] at hf
    rcases hf with rfl | rfl | rfl
    · refine ⟨⟨_, rfl, by decide⟩, ⟨_, rfl, by decide⟩, ⟨_, rfl, by decide⟩, by simp, ?_⟩
      intro name hname
      cases hname
      exact ⟨by decide, by decide, ⟨by simp [isBlank], by simp [isBlank]⟩, by decide⟩
    · exact ⟨⟨_, rfl, by decide⟩, ⟨_, rfl, by decide⟩, ⟨_, rfl, by decide⟩,
        by simp [Frame.path, isBlank], by simp⟩
    · exact ⟨⟨_, rfl, by decide⟩, ⟨_, rfl, by decide⟩, ⟨_, rfl, by decide⟩,
        by simp [Frame.path, isBlank], by simp⟩
  have hheader : header.IsOneLine := ⟨by simp [header, isBlank], by decide⟩
  have habove : ∀ h, some header = some h → h.IsOneLine := by
    intro h hh
    cases hh
    exact hheader
  have hback := read_write_of_isWritable hframes habove
  exact ⟨hframes, hheader, (hback 50).2 (by decide), (hback 2).1⟩

end ErrorOrigin.Stack
