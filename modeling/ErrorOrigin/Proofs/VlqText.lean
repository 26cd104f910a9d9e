import ErrorOrigin.SourceMap.Vlq
import Mathlib.Data.List.SplitBy
import Mathlib.Data.Nat.Digits.Lemmas
import Mathlib.Tactic

/-!
# The texts that spell numbers

A text spells numbers when it is a row of groups, each of at most twelve letters of which only the
last ends its number.  Every other text has a first offending letter, or stops inside a group.  The
decoder is compared with this grammar, not with another decoder: the value of a group is the
little-endian number of its digits.
-/

namespace ErrorOrigin

/-- Of two outcomes one of which is always due, each comes only when it is due. -/
theorem outcome_iff {ε α : Type} {outcome : Except ε α} {accepted : α → Prop}
    {blamed : ε → Prop} (hok : ∀ a, accepted a → outcome = .ok a)
    (herror : ∀ e, blamed e → outcome = .error e)
    (htotal : (∃ a, accepted a) ∨ ∃ e, blamed e) :
    (∀ a, outcome = .ok a ↔ accepted a) ∧ ∀ e, outcome = .error e ↔ blamed e := by
  rcases htotal with ⟨a, ha⟩ | ⟨e, he⟩
  · have houtcome := hok a ha
    refine ⟨fun b => ⟨?_, hok b⟩, fun e => ⟨?_, herror e⟩⟩
    · intro hb
      rw [houtcome, Except.ok.injEq] at hb
      exact hb ▸ ha
    · intro he
      rw [houtcome] at he
      cases he
  · have houtcome := herror e he
    refine ⟨fun a => ⟨?_, hok a⟩, fun other => ⟨?_, herror other⟩⟩
    · intro ha
      rw [houtcome] at ha
      cases ha
    · intro hother
      rw [houtcome, Except.error.injEq] at hother
      exact hother ▸ he

end ErrorOrigin

namespace ErrorOrigin.SourceMap.Vlq

def continues (c : Char) : Bool :=
  (value? c).any fun value => decide (32 ≤ value)

def ends (c : Char) : Bool :=
  (value? c).any fun value => decide (value < 32)

/-- What a letter adds to its number, whether or not more letters follow. -/
def digit (c : Char) : Nat :=
  (value? c).getD 0 % 32

def IsGroup (group : List Char) : Prop :=
  ∃ begun last, group = begun ++ [last] ∧ begun.length < mostDigits ∧
    (∀ c ∈ begun, continues c = true) ∧ ends last = true

def groupValue (group : List Char) : Int :=
  ofSigned (Nat.ofDigits 32 (group.map digit))

def Spelled (text : List Char) : Prop :=
  ∃ groups : List (List Char), text = groups.flatten ∧ ∀ group ∈ groups, IsGroup group

/-- The numbers of a text that is cut behind each letter that does not continue. -/
def numbers (text : List Char) : List Int :=
  (text.splitBy fun c _ => continues c).map groupValue

/-- Whole groups and then letters of a group that has only begun. -/
structure Stem (groups : List (List Char)) (begun : List Char) : Prop where
  whole : ∀ group ∈ groups, IsGroup group
  unended : ∀ c ∈ begun, continues c = true
  short : begun.length ≤ mostDigits

/-- What is wrong with a text, by the first letter at which it goes wrong. -/
inductive Offends : List Char → Fault → Prop
  | invalidCharacter {groups : List (List Char)} {begun rest : List Char} {c : Char}
      (hstem : Stem groups begun) (hc : value? c = none) :
      Offends (groups.flatten ++ (begun ++ c :: rest)) (.invalidCharacter (leadByte c))
  | overflow {groups : List (List Char)} {begun rest : List Char} {c : Char}
      (hstem : Stem groups begun) (hfull : begun.length = mostDigits)
      (hc : (value? c).isSome = true) :
      Offends (groups.flatten ++ (begun ++ c :: rest)) .overflow
  | truncated {groups : List (List Char)} {begun : List Char}
      (hstem : Stem groups begun) (hbegun : begun ≠ []) :
      Offends (groups.flatten ++ begun) .truncated

theorem digit_lt (c : Char) : digit c < 32 :=
  Nat.mod_lt _ (by decide)

theorem value?_of_continues {c : Char} (hc : continues c = true) :
    ∃ value, value? c = some value ∧ 32 ≤ value ∧ value % 32 = digit c := by
  unfold continues at hc
  cases hvalue : value? c with
  | none => simp [hvalue] at hc
  | some value =>
      refine ⟨value, rfl, by simpa [hvalue] using hc, ?_⟩
      simp [digit, hvalue]

theorem value?_of_ends {c : Char} (hc : ends c = true) :
    ∃ value, value? c = some value ∧ value < 32 ∧ value % 32 = digit c := by
  unfold ends at hc
  cases hvalue : value? c with
  | none => simp [hvalue] at hc
  | some value =>
      refine ⟨value, rfl, by simpa [hvalue] using hc, ?_⟩
      simp [digit, hvalue]

theorem continues_eq_false_of_ends {c : Char} (hc : ends c = true) :
    continues c = false := by
  obtain ⟨value, hvalue, hlt, -⟩ := value?_of_ends hc
  simp only [continues, hvalue, Option.any_some, decide_eq_false_iff_not]
  omega

theorem continues_or_ends {c : Char} (hc : (value? c).isSome = true) :
    continues c = true ∨ ends c = true := by
  obtain ⟨value, hvalue⟩ := Option.isSome_iff_exists.mp hc
  simp only [continues, ends, hvalue, Option.any_some, decide_eq_true_eq]
  omega

/-- The digits are kept with the last one read in front. -/
theorem ofDigits_eq (digits : List Nat) :
    ofDigits digits = Nat.ofDigits 32 digits.reverse := by
  rw [Nat.ofDigits_eq_foldr, List.foldr_reverse]
  simp only [ofDigits, Nat.cast_id, Nat.add_comm]

theorem ofDigits_digits (begun : List Char) (last : Char) :
    ofDigits (digit last :: (begun.map digit).reverse) =
      Nat.ofDigits 32 ((begun ++ [last]).map digit) := by
  rw [ofDigits_eq]
  simp

theorem decodeFrom_continues {begun : List Nat} {letters : List Char}
    (rest : List Char) (hletters : ∀ c ∈ letters, continues c = true)
    (hshort : begun.length + letters.length ≤ mostDigits) :
    decodeFrom begun (letters ++ rest) =
      decodeFrom ((letters.map digit).reverse ++ begun) rest := by
  induction letters generalizing begun with
  | nil => rfl
  | cons c letters ih =>
      obtain ⟨value, hvalue, hge, hdigit⟩ :=
        value?_of_continues (hletters c List.mem_cons_self)
      have hroom : ¬ mostDigits ≤ begun.length := by
        simp only [List.length_cons] at hshort
        omega
      have hnext : ¬ value < 32 := by omega
      have hshort' : (digit c :: begun).length + letters.length ≤ mostDigits := by
        simp only [List.length_cons] at hshort ⊢
        omega
      have htail := ih (fun d hd => hletters d (List.mem_cons_of_mem c hd)) hshort'
      rw [List.cons_append, decodeFrom]
      simp only [hvalue, if_neg hroom, if_neg hnext, hdigit]
      rw [htail]
      simp

theorem decodeFrom_ends {begun : List Nat} {c : Char} (rest : List Char)
    (hc : ends c = true) (hroom : begun.length < mostDigits) :
    decodeFrom begun (c :: rest) =
      (decodeFrom [] rest).map (ofSigned (ofDigits (digit c :: begun)) :: ·) := by
  obtain ⟨value, hvalue, hlt, hdigit⟩ := value?_of_ends hc
  have hroom' : ¬ mostDigits ≤ begun.length := by omega
  rw [decodeFrom]
  simp only [hvalue, if_neg hroom', if_pos hlt, hdigit]

theorem decodeFrom_group {group : List Char} (rest : List Char)
    (hgroup : IsGroup group) :
    decodeFrom [] (group ++ rest) =
      (decodeFrom [] rest).map (groupValue group :: ·) := by
  obtain ⟨begun, last, rfl, hshort, hbegun, hlast⟩ := hgroup
  rw [List.append_assoc,
    decodeFrom_continues _ hbegun (by simp only [List.length_nil]; omega),
    List.append_nil, List.singleton_append,
    decodeFrom_ends rest hlast (by simpa using hshort), ofDigits_digits]
  rfl

theorem decodeFrom_groups {groups : List (List Char)} (rest : List Char)
    (hgroups : ∀ group ∈ groups, IsGroup group) :
    decodeFrom [] (groups.flatten ++ rest) =
      (decodeFrom [] rest).map (groups.map groupValue ++ ·) := by
  induction groups with
  | nil =>
      cases hrest : decodeFrom [] rest <;> simp [hrest, Except.map]
  | cons group groups ih =>
      have htail := ih fun g hg => hgroups g (List.mem_cons_of_mem group hg)
      rw [List.flatten_cons, List.append_assoc,
        decodeFrom_group _ (hgroups group List.mem_cons_self), htail]
      cases decodeFrom [] rest <;> rfl

/-- The groups of a spelled text are found again by cutting it. -/
theorem splitBy_flatten_groups {groups : List (List Char)}
    (hgroups : ∀ group ∈ groups, IsGroup group) :
    groups.flatten.splitBy (fun c _ => continues c) = groups := by
  apply List.splitBy_flatten
  · intro hnil
    obtain ⟨begun, last, hempty, -⟩ := hgroups [] hnil
    simp at hempty
  · intro group hmem
    obtain ⟨begun, last, rfl, -, hbegun, -⟩ := hgroups group hmem
    rw [List.isChain_append]
    refine ⟨?_, List.isChain_singleton last, ?_⟩
    · exact List.Pairwise.isChain
        (List.pairwise_of_forall_mem_list fun c hc _ _ => hbegun c hc)
    · intro c hc _ _
      exact hbegun c (List.mem_of_mem_getLast? hc)
  · induction groups with
    | nil => exact List.isChain_nil
    | cons group groups ih =>
        rw [List.isChain_cons]
        refine ⟨?_, ih fun g hg => hgroups g (List.mem_cons_of_mem group hg)⟩
        intro next hnext
        have hnextMem : next ∈ group :: groups :=
          List.mem_cons_of_mem group (List.mem_of_mem_head? hnext)
        obtain ⟨begun, last, rfl, -, -, hlast⟩ := hgroups group List.mem_cons_self
        obtain ⟨begun', last', rfl, -⟩ := hgroups next hnextMem
        refine ⟨by simp, by simp, ?_⟩
        rw [List.getLast_append_singleton]
        exact continues_eq_false_of_ends hlast

theorem numbers_flatten {groups : List (List Char)}
    (hgroups : ∀ group ∈ groups, IsGroup group) :
    numbers groups.flatten = groups.map groupValue := by
  rw [numbers, splitBy_flatten_groups hgroups]

theorem Spelled.group_append {group text : List Char} (htext : Spelled text)
    (hgroup : IsGroup group) : Spelled (group ++ text) := by
  obtain ⟨groups, rfl, hgroups⟩ := htext
  refine ⟨group :: groups, rfl, ?_⟩
  intro g hg
  rcases List.mem_cons.mp hg with rfl | hg
  · exact hgroup
  · exact hgroups g hg

theorem Stem.group_cons {groups : List (List Char)} {group begun : List Char}
    (hstem : Stem groups begun) (hgroup : IsGroup group) :
    Stem (group :: groups) begun := by
  refine ⟨?_, hstem.unended, hstem.short⟩
  intro g hg
  rcases List.mem_cons.mp hg with rfl | hg
  · exact hgroup
  · exact hstem.whole g hg

theorem Offends.group_append {group text : List Char} {fault : Fault}
    (htext : Offends text fault) (hgroup : IsGroup group) :
    Offends (group ++ text) fault := by
  cases htext with
  | invalidCharacter hstem hc =>
      rw [← List.append_assoc, ← List.flatten_cons]
      exact .invalidCharacter (hstem.group_cons hgroup) hc
  | overflow hstem hfull hc =>
      rw [← List.append_assoc, ← List.flatten_cons]
      exact .overflow (hstem.group_cons hgroup) hfull hc
  | truncated hstem hbegun =>
      rw [← List.append_assoc, ← List.flatten_cons]
      exact .truncated (hstem.group_cons hgroup) hbegun

/-! ## The decoder and the grammar -/

theorem decode_of_spelled {text : List Char} (htext : Spelled text) :
    decode text = .ok (numbers text) := by
  obtain ⟨groups, rfl, hgroups⟩ := htext
  have hread := decodeFrom_groups [] hgroups
  rw [List.append_nil] at hread
  rw [decode, hread, numbers_flatten hgroups]
  simp [decodeFrom, Except.map]

theorem decode_of_stem {groups : List (List Char)} {begun : List Char}
    (rest : List Char) (hstem : Stem groups begun) :
    decode (groups.flatten ++ (begun ++ rest)) =
      (decodeFrom (begun.map digit).reverse rest).map
        (groups.map groupValue ++ ·) := by
  have hshort : ([] : List Nat).length + begun.length ≤ mostDigits := by
    simpa using hstem.short
  rw [decode, decodeFrom_groups _ hstem.whole,
    decodeFrom_continues rest hstem.unended hshort, List.append_nil]

theorem decode_of_offends {text : List Char} {fault : Fault}
    (htext : Offends text fault) : decode text = .error fault := by
  cases htext with
  | invalidCharacter hstem hc =>
      rw [decode_of_stem _ hstem, decodeFrom]
      simp [hc, Except.map]
  | overflow hstem hfull hc =>
      obtain ⟨value, hvalue⟩ := Option.isSome_iff_exists.mp hc
      rw [decode_of_stem _ hstem, decodeFrom]
      simp [hvalue, hfull, Except.map]
  | @truncated groups begun hstem hbegun =>
      have hread := decode_of_stem [] hstem
      rw [List.append_nil] at hread
      rw [hread, decodeFrom]
      simp [hbegun, Except.map]

/-- Reading goes on letter by letter, with the letters of the begun group in hand. -/
theorem spelled_or_offends_of_begun {begun : List Char} (text : List Char)
    (hbegun : ∀ c ∈ begun, continues c = true)
    (hshort : begun.length ≤ mostDigits) :
    Spelled (begun ++ text) ∨ ∃ fault, Offends (begun ++ text) fault := by
  have hstem : Stem [] begun := ⟨by simp, hbegun, hshort⟩
  induction text generalizing begun with
  | nil =>
      rw [List.append_nil]
      by_cases hempty : begun = []
      · exact .inl ⟨[], by simp [hempty], by simp⟩
      · exact .inr ⟨.truncated, .truncated hstem hempty⟩
  | cons c rest ih =>
      cases hc : value? c with
      | none => exact .inr ⟨_, .invalidCharacter hstem hc⟩
      | some value =>
          have hsome : (value? c).isSome = true := by simp [hc]
          by_cases hfull : begun.length = mostDigits
          · exact .inr ⟨.overflow, .overflow hstem hfull hsome⟩
          · rcases continues_or_ends hsome with hcontinues | hends
            · have hbegun' : ∀ d ∈ begun ++ [c], continues d = true := by
                intro d hd
                rcases List.mem_append.mp hd with hd | hd
                · exact hbegun d hd
                · rw [List.mem_singleton.mp hd]
                  exact hcontinues
              have hshort' : (begun ++ [c]).length ≤ mostDigits := by
                simp only [List.length_append, List.length_singleton]
                omega
              simpa using ih hbegun' hshort' ⟨by simp, hbegun', hshort'⟩
            · have hgroup : IsGroup (begun ++ [c]) :=
                ⟨begun, c, rfl, by omega, hbegun, hends⟩
              have hnil : Stem [] [] := ⟨by simp, by simp, by simp⟩
              have htail := ih hnil.unended hnil.short hnil
              rw [List.nil_append] at htail
              rw [show begun ++ c :: rest = (begun ++ [c]) ++ rest by simp]
              rcases htail with hspelled | ⟨fault, hoffends⟩
              · exact .inl (hspelled.group_append hgroup)
              · exact .inr ⟨fault, hoffends.group_append hgroup⟩

theorem spelled_or_offends (text : List Char) :
    Spelled text ∨ ∃ fault, Offends text fault := by
  have hnil : ∀ c ∈ ([] : List Char), continues c = true := by simp
  simpa using spelled_or_offends_of_begun text hnil (by simp)

theorem decode_iff (text : List Char) :
    (∀ list, decode text = .ok list ↔ Spelled text ∧ list = numbers text) ∧
      ∀ fault, decode text = .error fault ↔ Offends text fault := by
  apply outcome_iff
  · rintro list ⟨hspelled, rfl⟩
    exact decode_of_spelled hspelled
  · intro fault hoffends
    exact decode_of_offends hoffends
  · rcases spelled_or_offends text with hspelled | hoffends
    · exact .inl ⟨_, hspelled, rfl⟩
    · exact .inr hoffends

/-! ## How large numbers become -/

/-- Every value that reading a text collects, after each letter that it takes. -/
def collected (begun : List Nat) : List Char → List Nat
  | [] => []
  | c :: rest =>
      match value? c with
      | none => []
      | some value =>
          if mostDigits ≤ begun.length then []
          else
            let digits := value % 32 :: begun
            ofDigits digits :: collected (if value < 32 then [] else digits) rest

theorem ofDigits_lt {digits : List Nat} (hdigits : ∀ d ∈ digits, d < 32)
    (hshort : digits.length ≤ mostDigits) : ofDigits digits < 2 ^ 60 := by
  have hreverse : ∀ d ∈ digits.reverse, d < 32 := by
    intro d hd
    exact hdigits d (List.mem_reverse.mp hd)
  rw [ofDigits_eq]
  calc
    Nat.ofDigits 32 digits.reverse < 32 ^ digits.reverse.length :=
      Nat.ofDigits_lt_base_pow_length (by decide) hreverse
    _ ≤ 32 ^ mostDigits := by
      rw [List.length_reverse]
      exact Nat.pow_le_pow_right (by decide) hshort
    _ = 2 ^ 60 := by decide

theorem collected_lt {begun : List Nat} {text : List Char}
    (hbegun : ∀ d ∈ begun, d < 32) :
    ∀ value ∈ collected begun text, value < 2 ^ 60 := by
  induction text generalizing begun with
  | nil => simp [collected]
  | cons c rest ih =>
      rw [collected]
      cases hc : value? c with
      | none => simp
      | some value =>
          by_cases hfull : mostDigits ≤ begun.length
          · simp [hfull]
          · have hdigits : ∀ d ∈ value % 32 :: begun, d < 32 := by
              intro d hd
              rcases List.mem_cons.mp hd with rfl | hd
              · exact Nat.mod_lt _ (by decide)
              · exact hbegun d hd
            have hshort : (value % 32 :: begun).length ≤ mostDigits := by
              rw [List.length_cons]
              omega
            have hkept : ∀ d ∈ if value < 32 then [] else value % 32 :: begun, d < 32 := by
              split
              · simp
              · exact hdigits
            simp only [if_neg hfull]
            intro n hn
            rcases List.mem_cons.mp hn with rfl | hn
            · exact ofDigits_lt hdigits hshort
            · exact ih hkept n hn

theorem subset_map_collected {begun : List Nat} {text : List Char} {list : List Int}
    (hread : decodeFrom begun text = .ok list) :
    list ⊆ (collected begun text).map ofSigned := by
  induction text generalizing begun list with
  | nil =>
      rw [decodeFrom] at hread
      split at hread <;> cases hread
      exact List.nil_subset _
  | cons c rest ih =>
      rw [decodeFrom] at hread
      rw [collected]
      cases hc : value? c with
      | none => simp [hc] at hread
      | some value =>
          by_cases hfull : mostDigits ≤ begun.length
          · simp [hc, hfull] at hread
          · simp only [hc, if_neg hfull, List.map_cons] at hread ⊢
            by_cases hends : value < 32
            · rw [if_pos hends] at hread ⊢
              cases htail : decodeFrom [] rest with
              | error fault => simp [htail, Except.map] at hread
              | ok tail =>
                  rw [htail, Except.map, Except.ok.injEq] at hread
                  subst list
                  exact List.cons_subset_cons _ (ih htail)
            · rw [if_neg hends] at hread ⊢
              exact List.subset_cons_of_subset _ (ih hread)

theorem natAbs_ofSigned (n : Nat) : (ofSigned n).natAbs = n / 2 := by
  unfold ofSigned
  split <;> omega

theorem natAbs_groupValue_lt {group : List Char} (hgroup : IsGroup group) :
    (groupValue group).natAbs < 2 ^ 59 := by
  have hlt : Nat.ofDigits 32 (group.map digit) < 2 ^ 60 := by
    have hdigits : ∀ d ∈ (group.map digit).reverse, d < 32 := by
      intro d hd
      obtain ⟨c, -, rfl⟩ := List.mem_map.mp (List.mem_reverse.mp hd)
      exact digit_lt c
    have hshort : (group.map digit).reverse.length ≤ mostDigits := by
      obtain ⟨begun, last, rfl, hbegun, -⟩ := hgroup
      simpa using hbegun
    simpa [ofDigits_eq] using ofDigits_lt hdigits hshort
  rw [groupValue, natAbs_ofSigned]
  omega

/-! ## Writing -/

theorem letter_mem_alphabet (n : Nat) : letter n ∈ alphabet := by
  rw [letter, List.getD_eq_getElem?_getD]
  cases hn : alphabet[n]? with
  | none => decide
  | some c => exact List.mem_of_getElem? hn

theorem ends_letter {n : Nat} (hn : n < 32) : ends (letter n) = true := by
  simp [ends, value?_letter (show n < 64 by omega), hn]

theorem continues_letter {n : Nat} (hge : 32 ≤ n) (hn : n < 64) :
    continues (letter n) = true := by
  simp [continues, value?_letter hn, hge]

theorem digit_letter {n : Nat} (hn : n < 64) : digit (letter n) = n % 32 := by
  simp [digit, value?_letter hn]

theorem ofDigits_encodeNat (n : Nat) :
    Nat.ofDigits 32 ((encodeNat n).map digit) = n := by
  fun_induction encodeNat n with
  | case1 n hn =>
      simp [digit_letter (show n < 64 by omega), Nat.mod_eq_of_lt hn]
  | case2 n hn ih =>
      rw [List.map_cons, Nat.ofDigits_cons, ih, digit_letter (by omega)]
      omega

/-- A number below `32 ^ (k + 1)` needs at most `k` letters before the one that ends it. -/
theorem encodeNat_eq_append {n k : Nat} (hn : n < 32 ^ (k + 1)) :
    ∃ begun last, encodeNat n = begun ++ [last] ∧ begun.length ≤ k ∧
      (∀ c ∈ begun, continues c = true) ∧ ends last = true := by
  induction k generalizing n with
  | zero =>
      have hlt : n < 32 := by simpa using hn
      refine ⟨[], letter n, ?_, by simp, by simp, ends_letter hlt⟩
      rw [encodeNat, if_pos hlt, List.nil_append]
  | succ k ih =>
      by_cases hlt : n < 32
      · refine ⟨[], letter n, ?_, by simp, by simp, ends_letter hlt⟩
        rw [encodeNat, if_pos hlt, List.nil_append]
      · have hquotient : n / 32 < 32 ^ (k + 1) := by
          rw [Nat.div_lt_iff_lt_mul (by decide), ← Nat.pow_succ]
          exact hn
        obtain ⟨begun, last, htext, hlength, hbegun, hlast⟩ := ih hquotient
        refine ⟨letter (n % 32 + 32) :: begun, last, ?_, ?_, ?_, hlast⟩
        · rw [encodeNat, if_neg hlt, htext, List.cons_append]
        · rw [List.length_cons]
          omega
        · intro c hc
          rcases List.mem_cons.mp hc with rfl | hc
          · exact continues_letter (by omega) (by omega)
          · exact hbegun c hc

theorem isGroup_encodeNat {n : Nat} (hn : n < 2 ^ 60) : IsGroup (encodeNat n) := by
  have hn' : n < 32 ^ (11 + 1) := hn.trans_eq (by decide)
  obtain ⟨begun, last, htext, hlength, hbegun, hlast⟩ := encodeNat_eq_append hn'
  refine ⟨begun, last, htext, ?_, hbegun, hlast⟩
  unfold mostDigits
  omega

theorem groupValue_encodeNat (i : Int) : groupValue (encodeNat (toSigned i)) = i := by
  rw [groupValue, ofDigits_encodeNat, ofSigned_toSigned]

theorem decode_encode {list : List Int} (hlist : ∀ i ∈ list, i.natAbs < 2 ^ 59) :
    decode (encode list) = .ok list := by
  have hgroups : ∀ group ∈ list.map fun i => encodeNat (toSigned i), IsGroup group := by
    intro group hgroup
    obtain ⟨i, hi, rfl⟩ := List.mem_map.mp hgroup
    have hsmall := hlist i hi
    apply isGroup_encodeNat
    unfold toSigned
    split <;> omega
  have htext : encode list = (list.map fun i => encodeNat (toSigned i)).flatten :=
    List.flatMap_def ..
  rw [htext, decode_of_spelled ⟨_, rfl, hgroups⟩, numbers_flatten hgroups, List.map_map]
  simp [Function.comp_def, groupValue_encodeNat]

theorem mem_alphabet_of_mem_encodeNat {n : Nat} {c : Char} (hc : c ∈ encodeNat n) :
    c ∈ alphabet := by
  fun_induction encodeNat n with
  | case1 n hn =>
      rw [List.mem_singleton.mp hc]
      exact letter_mem_alphabet n
  | case2 n hn ih =>
      rcases List.mem_cons.mp hc with rfl | hc
      · exact letter_mem_alphabet _
      · exact ih hc

theorem mem_alphabet_of_mem_encode {list : List Int} {c : Char} (hc : c ∈ encode list) :
    c ∈ alphabet := by
  obtain ⟨i, -, hi⟩ := List.mem_flatMap.mp hc
  exact mem_alphabet_of_mem_encodeNat hi

theorem encode_ne_nil {list : List Int} (hlist : list ≠ []) : encode list ≠ [] := by
  obtain ⟨i, rest, rfl⟩ := List.exists_cons_of_ne_nil hlist
  rw [encode, List.flatMap_cons]
  intro hempty
  have hnil := List.append_eq_nil_iff.mp hempty
  rw [encodeNat] at hnil
  split at hnil <;> simp at hnil

end ErrorOrigin.SourceMap.Vlq
