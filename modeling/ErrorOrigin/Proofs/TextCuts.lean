import ErrorOrigin.Proofs.StackText
import Mathlib.Data.List.TakeWhile
import Mathlib.Tactic

/-!
# Cuts and trimmed texts

A cut is determined by the text itself: it is made at the one place where the separator stands and
does not occur on the searched side.  A trimmed text is one whose two ends show something.
-/

namespace ErrorOrigin.Text

/-! ## Cuts -/

theorem cut?_append_cons {sep : Char} {before : List Char} (after : List Char)
    (hbefore : sep ∉ before) : cut? sep (before ++ sep :: after) = some (before, after) := by
  induction before with
  | nil => simp [cut?]
  | cons c rest ih =>
      rw [List.mem_cons, not_or] at hbefore
      have hc : c ≠ sep := Ne.symm hbefore.1
      rw [List.cons_append, cut?, if_neg hc, ih hbefore.2]
      rfl

/-- What precedes every separator stays before the first cut. -/
theorem cut?_append_of_not_mem {sep : Char} {s : List Char} (hs : sep ∉ s) (rest : List Char) :
    cut? sep (s ++ rest) = (cut? sep rest).map fun parts => (s ++ parts.1, parts.2) := by
  induction s with
  | nil =>
      rw [List.nil_append]
      cases cut? sep rest <;> rfl
  | cons c s ih =>
      rw [List.mem_cons, not_or] at hs
      rw [List.cons_append, cut?, if_neg (Ne.symm hs.1), ih hs.2, Option.map_map]
      rfl

theorem upTo_append_of_not_mem {sep : Char} {s : List Char} (hs : sep ∉ s) (rest : List Char) :
    upTo sep (s ++ rest) = s ++ upTo sep rest := by
  have hpart : ∀ c ∈ s, decide (c ≠ sep) = true := by
    intro c hc
    rw [decide_eq_true_eq]
    rintro rfl
    exact hs hc
  exact List.takeWhile_append_of_pos hpart

/-- What precedes the first separator holds none, and nothing or the separator follows it. -/
theorem upTo_eq_iff {sep : Char} {s front : List Char} :
    upTo sep s = front ↔
      ∃ rest, s = front ++ rest ∧ sep ∉ front ∧ (rest = [] ∨ rest.head? = some sep) := by
  constructor
  · rintro rfl
    refine ⟨s.dropWhile (· ≠ sep), List.takeWhile_append_dropWhile.symm, ?_, ?_⟩
    · intro hmem
      have hkept := List.mem_takeWhile_imp hmem
      simp at hkept
    · rw [or_iff_not_imp_left]
      intro hne
      have hstop := List.head_dropWhile_not (· ≠ sep) hne
      rw [List.head?_eq_some_head hne]
      simpa using hstop
  · rintro ⟨rest, rfl, hfront, hrest⟩
    rw [upTo_append_of_not_mem hfront]
    rcases hrest with rfl | hhead
    · exact List.append_nil front
    · obtain ⟨tail, rfl⟩ := List.head?_eq_some_iff.mp hhead
      simp [upTo]

theorem mem_of_mem_intercalate {α : Type} {separator : List α} {texts : List (List α)} {c : α}
    (hc : c ∈ separator.intercalate texts) :
    c ∈ separator ∨ ∃ text ∈ texts, c ∈ text := by
  induction texts with
  | nil => simp at hc
  | cons text rest ih =>
      by_cases hrest : rest = []
      · subst rest
        exact .inr ⟨text, List.mem_cons_self, by simpa using hc⟩
      · rw [List.intercalate_cons_of_ne_nil hrest, List.mem_append, List.mem_append] at hc
        rcases hc with (hc | hc) | hc
        · exact .inr ⟨text, List.mem_cons_self, hc⟩
        · exact .inl hc
        · rcases ih hc with hc | ⟨other, hother, hc⟩
          · exact .inl hc
          · exact .inr ⟨other, List.mem_cons_of_mem text hother, hc⟩

theorem cutLast?_append_cons {sep : Char} (before : List Char) {after : List Char}
    (hafter : sep ∉ after) : cutLast? sep (before ++ sep :: after) = some (before, after) := by
  have hreverse : (before ++ sep :: after).reverse = after.reverse ++ sep :: before.reverse := by
    simp
  have hback : sep ∉ after.reverse := by
    simpa using hafter
  rw [cutLast?, hreverse, cut?_append_cons _ hback]
  simp

/-- Of two different characters the first cannot end a text and begin the pair at once. -/
theorem cutText?_pair_append {a b : Char} (hab : a ≠ b) {before : List Char}
    (after : List Char) (hbefore : ¬[a, b] <:+: before) :
    cutText? [a, b] (before ++ a :: b :: after) = some (before, after) := by
  induction before with
  | nil => simp [cutText?, dropStart?]
  | cons c rest ih =>
      have hrest : ¬[a, b] <:+: rest := fun hoccurs => hbefore (List.infix_cons hoccurs)
      have hstart : dropStart? [a, b] (c :: (rest ++ a :: b :: after)) = none := by
        by_contra hsome
        rw [← ne_eq, Option.ne_none_iff_isSome, dropStart?_isSome_iff] at hsome
        rw [List.cons_prefix_cons] at hsome
        obtain ⟨rfl, hpair⟩ := hsome
        cases rest with
        | nil =>
            rw [List.nil_append, List.cons_prefix_cons] at hpair
            exact hab hpair.1.symm
        | cons d others =>
            rw [List.cons_append, List.cons_prefix_cons] at hpair
            obtain ⟨rfl, -⟩ := hpair
            exact hbefore ⟨[], others, rfl⟩
      rw [List.cons_append, cutText?, hstart, ih hrest]
      rfl

theorem not_infix_of_cutText?_eq_some {sep s before after : List Char} (hsep : sep ≠ [])
    (hcut : cutText? sep s = some (before, after)) : ¬sep <:+: before := by
  induction s generalizing before with
  | nil =>
      rw [cutText?] at hcut
      split at hcut
      · rename_i hnil
        exact absurd hnil hsep
      · cases hcut
  | cons c rest ih =>
      rw [cutText?] at hcut
      split at hcut
      · cases hcut
        exact fun hoccurs => hsep (List.eq_nil_of_infix_nil hoccurs)
      · rename_i hstart
        obtain ⟨⟨front, back⟩, hrest, heq⟩ := Option.map_eq_some_iff.mp hcut
        obtain ⟨rfl, rfl⟩ := Prod.mk.inj heq
        rw [List.infix_cons_iff, not_or]
        refine ⟨?_, ih hrest⟩
        intro hbegin
        have hs : c :: rest = (c :: front) ++ (sep ++ back) := by
          rw [eq_of_cutText?_eq_some hrest, List.cons_append]
        have hlong : sep <+: c :: rest := hs ▸ hbegin.trans (List.prefix_append _ _)
        rw [← dropStart?_isSome_iff, hstart] at hlong
        cases hlong

theorem cutText?_eq_none_iff {sep s : List Char} : cutText? sep s = none ↔ ¬sep <:+: s := by
  rw [← occurs_iff, occurs, Bool.not_eq_true, Option.isSome_eq_false_iff, Option.isNone_iff_eq_none]

/-! ## Trimmed texts -/

structure IsTrimmed (s : List Char) : Prop where
  head : ∀ c ∈ s.head?, isBlank c = false
  last : ∀ c ∈ s.getLast?, isBlank c = false

theorem dropWhile_eq_self_of_head {p : Char → Bool} {s : List Char}
    (hs : ∀ c ∈ s.head?, p c = false) : s.dropWhile p = s := by
  cases s with
  | nil => rfl
  | cons c rest =>
      have hc : p c = false := hs c rfl
      simp [hc]

theorem strip_eq_self {atStart atEnd : Char → Bool} {s : List Char}
    (hhead : ∀ c ∈ s.head?, atStart c = false) (hlast : ∀ c ∈ s.getLast?, atEnd c = false) :
    strip atStart atEnd s = s := by
  have hback : ∀ c ∈ s.reverse.head?, atEnd c = false := by
    rw [List.head?_reverse]
    exact hlast
  rw [strip, dropWhile_eq_self_of_head hhead, dropWhile_eq_self_of_head hback,
    List.reverse_reverse]

theorem IsTrimmed.trim_eq {s : List Char} (hs : IsTrimmed s) : trim s = s :=
  strip_eq_self hs.head hs.last

theorem head_dropWhile_isBlank (s : List Char) :
    ∀ c ∈ (s.dropWhile isBlank).head?, isBlank c = false := by
  intro c hc
  have hhead := List.head?_dropWhile_not isBlank s
  rw [Option.mem_def.mp hc] at hhead
  exact hhead

theorem strip_isPrefix_dropWhile (atStart atEnd : Char → Bool) (s : List Char) :
    strip atStart atEnd s <+: s.dropWhile atStart := by
  rw [strip, ← List.reverse_suffix, List.reverse_reverse]
  exact List.dropWhile_suffix atEnd

theorem strip_isInfix (atStart atEnd : Char → Bool) (s : List Char) :
    strip atStart atEnd s <:+: s :=
  (strip_isPrefix_dropWhile atStart atEnd s).isInfix.trans
    (List.dropWhile_suffix atStart).isInfix

theorem trim_isPrefix_dropWhile (s : List Char) : trim s <+: s.dropWhile isBlank :=
  strip_isPrefix_dropWhile isBlank isBlank s

theorem trim_isInfix (s : List Char) : trim s <:+: s :=
  strip_isInfix isBlank isBlank s

theorem isTrimmed_trim (s : List Char) : IsTrimmed (trim s) := by
  constructor
  · intro c hc
    obtain ⟨rest, hrest⟩ := trim_isPrefix_dropWhile s
    apply head_dropWhile_isBlank s c
    rw [← hrest, List.head?_append, Option.mem_def.mp hc]
    rfl
  · intro c hc
    apply head_dropWhile_isBlank (s.dropWhile isBlank).reverse c
    rw [trim, strip, List.getLast?_reverse] at hc
    exact hc

theorem trim_eq_nil_iff {s : List Char} : trim s = [] ↔ ∀ c ∈ s, isBlank c = true := by
  rw [trim, strip, List.reverse_eq_nil_iff, List.dropWhile_eq_nil_iff]
  constructor
  · intro hblank
    have hnil : s.dropWhile isBlank = [] := by
      cases hdrop : s.dropWhile isBlank with
      | nil => rfl
      | cons c rest =>
          have hshown := head_dropWhile_isBlank s c (by rw [hdrop]; rfl)
          have hc := hblank c (by simp [hdrop])
          rw [hshown] at hc
          cases hc
    exact List.dropWhile_eq_nil_iff.mp hnil
  · intro hblank c hc
    exact hblank c ((List.dropWhile_sublist _).subset (List.mem_reverse.mp hc))

theorem trim_cons_blank {c : Char} (hc : isBlank c = true) (s : List Char) :
    trim (c :: s) = trim s := by
  simp [trim, strip, hc]

theorem trim_append_blanks (s : List Char) {blanks : List Char}
    (hblanks : ∀ c ∈ blanks, isBlank c = true) : trim (s ++ blanks) = trim s := by
  induction blanks using List.reverseRecOn with
  | nil => rw [List.append_nil]
  | append_singleton front c ih =>
      have hc : isBlank c = true := hblanks c (by simp)
      rw [← List.append_assoc, trim_append_blank hc, ih fun d hd => hblanks d (by simp [hd])]

/-- Behind the last character that shows something there are only blanks. -/
theorem exists_eq_append_blanks (s : List Char) :
    ∃ core blanks, s = core ++ blanks ∧ (∀ c ∈ core.getLast?, isBlank c = false) ∧
      ∀ c ∈ blanks, isBlank c = true := by
  refine ⟨(s.reverse.dropWhile isBlank).reverse, (s.reverse.takeWhile isBlank).reverse, ?_, ?_, ?_⟩
  · rw [← List.reverse_append, List.takeWhile_append_dropWhile, List.reverse_reverse]
  · rw [List.getLast?_reverse]
    exact head_dropWhile_isBlank s.reverse
  · intro c hc
    exact List.mem_takeWhile_imp (List.mem_reverse.mp hc)

end ErrorOrigin.Text
