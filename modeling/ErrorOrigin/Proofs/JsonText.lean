import ErrorOrigin.Json.Reader
import ErrorOrigin.Json.Writer
import ErrorOrigin.Proofs.StackText
import Mathlib.Tactic

/-!
# Written values read back

A written value is followed by a comma, by a closing bracket or by nothing, and none of these can be
taken for a further digit.  So each part of the reader stops where the writer has stopped, whatever
comes after it.  Doubles are left out: a numeral with a point or an exponent is read by one rounding
and need not name the number it was written for.
-/

namespace ErrorOrigin.Json

open Text

/-- Nothing follows, or what stands between values. -/
def EndsValue (rest : List Char) : Prop :=
  ∀ c ∈ rest.head?, c = ',' ∨ c = ']' ∨ c = '}'

theorem EndsValue.nil : EndsValue [] := by
  simp [EndsValue]

theorem EndsValue.cons {c : Char} (hc : c = ',' ∨ c = ']' ∨ c = '}') (rest : List Char) :
    EndsValue (c :: rest) := by
  simpa [EndsValue] using hc

/-- Something begins that is neither a blank nor a closing bracket. -/
def BeginsValue (s : List Char) : Prop :=
  ∃ c rest, s = c :: rest ∧ c ∉ [' ', '\t', '\n', '\r', ']', '}']

theorem skipBlanks_cons {c : Char} (hc : c ∉ [' ', '\t', '\n', '\r']) (rest : List Char) :
    skipBlanks (c :: rest) = c :: rest := by
  simp only [List.mem_cons, List.not_mem_nil, or_false, not_or] at hc
  simp [skipBlanks, hc]

/-- An integer of at most 64 bits, signed if it is negative. -/
def Number.IsWord : Number → Prop
  | .int n => -negativeLimit ≤ n ∧ n ≤ wordLimit
  | .real _ _ => False

/-- The values that are read as they were written. -/
inductive IsPlain : Json → Prop
  | null : IsPlain .null
  | bool (b : Bool) : IsPlain (.bool b)
  | number {n : Number} (hn : n.IsWord) : IsPlain (.number n)
  | string (s : String) : IsPlain (.string s)
  | array {items : List Json} (hitems : ∀ j ∈ items, IsPlain j) : IsPlain (.array items)
  | object {members : List (String × Json)} (hmembers : ∀ p ∈ members, IsPlain p.2) :
      IsPlain (.object members)

/-! ## Numerals -/

theorem head_toDigits_ne_zero {n : Nat} (hn : 0 < n) :
    ∀ c ∈ (Nat.toDigits 10 n).head?, c ≠ '0' := by
  induction n using Nat.strongRecOn with
  | ind n ih =>
      rw [Nat.toDigits_eq_if (by decide)]
      split
      · rename_i hlt
        have hdigit : ∀ k : Fin 10, 0 < k.val → k.val.digitChar ≠ '0' := by decide
        simpa using hdigit ⟨n, hlt⟩ hn
      · have hhead := ih (n / 10) (by omega) (by omega)
        rwa [List.head?_append_of_ne_nil _ Nat.toDigits_ne_nil]

theorem isDigit_of_mem_toDigits {n : Nat} {c : Char} (hc : c ∈ Nat.toDigits 10 n) :
    c.isDigit = true :=
  Nat.isDigit_of_mem_toDigits (by decide) (by decide) hc

theorem EndsValue.not_digit {rest : List Char} (hrest : EndsValue rest) :
    ∀ c ∈ rest.head?, c.isDigit = false := by
  intro c hc
  rcases hrest c hc with rfl | rfl | rfl <;> rfl

theorem readDigits_append {digits rest : List Char} (hne : digits ≠ [])
    (hdigits : ∀ c ∈ digits, c.isDigit = true) (hrest : EndsValue rest) :
    readDigits (digits ++ rest) = some (digits, rest) := by
  have hstop : rest.takeWhile Char.isDigit = [] ∧ rest.dropWhile Char.isDigit = rest := by
    cases rest with
    | nil => exact ⟨rfl, rfl⟩
    | cons c rest =>
        have hc : c.isDigit = false := hrest.not_digit c rfl
        simp [hc]
  obtain ⟨d, ds, rfl⟩ := List.exists_cons_of_ne_nil hne
  rw [readDigits, List.span_eq_takeWhile_dropWhile, List.takeWhile_append_of_pos hdigits,
    List.dropWhile_append_of_pos hdigits, hstop.1, hstop.2, List.append_nil]

theorem readWhole_toDigits (n : Nat) {rest : List Char} (hrest : EndsValue rest) :
    readWhole (Nat.toDigits 10 n ++ rest) = some (Nat.toDigits 10 n, rest) := by
  rcases Nat.eq_zero_or_pos n with rfl | hpos
  · have hnone : rest.head?.any Char.isDigit = false := by
      cases hhead : rest.head? with
      | none => rfl
      | some c => exact hrest.not_digit c hhead
    rw [Nat.toDigits_zero, List.singleton_append, readWhole, hnone]
    rfl
  · have hread : readDigits (Nat.toDigits 10 n ++ rest) = some (Nat.toDigits 10 n, rest) :=
      readDigits_append Nat.toDigits_ne_nil (fun c hc => isDigit_of_mem_toDigits hc) hrest
    have hhead := head_toDigits_ne_zero hpos
    obtain ⟨d, ds, hdigits⟩ := List.exists_cons_of_ne_nil (Nat.toDigits_ne_nil (n := n) (b := 10))
    rw [hdigits] at hhead hread ⊢
    rw [List.cons_append] at hread ⊢
    rw [readWhole, hread]
    rintro _ hzero
    exact hhead d rfl (List.cons.inj hzero).1

theorem readFraction_of_endsValue {rest : List Char} (hrest : EndsValue rest) :
    readFraction rest = some (none, rest) := by
  unfold readFraction
  split
  · rename_i tail
    have hpoint := hrest '.' rfl
    simp at hpoint
  · rfl

theorem readExponent_of_endsValue {rest : List Char} (hrest : EndsValue rest) :
    readExponent rest = some (none, rest) := by
  cases rest with
  | nil => rfl
  | cons c rest =>
      have hc : ¬(c = 'e' ∨ c = 'E') := by
        rcases hrest c rfl with rfl | rfl | rfl <;> decide
      unfold readExponent
      exact if_neg hc

theorem readNumeral_toDigits (n : Nat) {rest : List Char} (hrest : EndsValue rest) :
    readNumeral (Nat.toDigits 10 n ++ rest) =
      some (⟨false, Nat.toDigits 10 n, none, none⟩, rest) := by
  have hwhole := readWhole_toDigits n hrest
  obtain ⟨d, ds, hdigits⟩ := List.exists_cons_of_ne_nil (Nat.toDigits_ne_nil (n := n) (b := 10))
  have hd : d ≠ '-' := by
    rintro rfl
    have hdigit : '-'.isDigit = true := isDigit_of_mem_toDigits (n := n) (by simp [hdigits])
    cases hdigit
  rw [hdigits, List.cons_append] at hwhole
  unfold readNumeral
  simp [hdigits, hd, hwhole, readFraction_of_endsValue hrest, readExponent_of_endsValue hrest]

theorem readNumeral_minus (n : Nat) {rest : List Char} (hrest : EndsValue rest) :
    readNumeral ('-' :: (Nat.toDigits 10 n ++ rest)) =
      some (⟨true, Nat.toDigits 10 n, none, none⟩, rest) := by
  unfold readNumeral
  simp [readWhole_toDigits n hrest, readFraction_of_endsValue hrest,
    readExponent_of_endsValue hrest]

theorem ofWhole_eq {word : Nat} {exponent : Int} {digits : List Char}
    (hlimit : Nat.ofDigitChars 10 digits word ≤ wordLimit) :
    Gathered.ofWhole ⟨word, exponent⟩ digits =
      ⟨Nat.ofDigitChars 10 digits word, exponent⟩ := by
  induction digits generalizing word with
  | nil => rfl
  | cons c rest ih =>
      rw [Nat.ofDigitChars_cons] at hlimit ⊢
      have hword : 10 * word + (c.toNat - '0'.toNat) ≤ wordLimit := by
        rw [Nat.ofDigitChars_eq_ofDigitChars_zero] at hlimit
        have hpow : 1 ≤ 10 ^ rest.length := Nat.one_le_pow _ _ (by decide)
        nlinarith
      rw [Gathered.ofWhole]
      exact (if_pos hword).trans (ih hlimit)

theorem number?_toDigits {n : Nat} (hn : n ≤ wordLimit) :
    Numeral.number? ⟨false, Nat.toDigits 10 n, none, none⟩ = some (.int n) := by
  have hvalue : Nat.ofDigitChars 10 (Nat.toDigits 10 n) 0 = n := Nat.ofDigitChars_ten_toDigits
  have hwhole : Gathered.ofWhole ⟨0, 0⟩ (Nat.toDigits 10 n) = ⟨n, 0⟩ := by
    rw [ofWhole_eq (by rwa [hvalue]), hvalue]
  simp [Numeral.number?, hwhole]

theorem number?_minus {n : Nat} (hpos : 0 < n) (hn : n ≤ negativeLimit) :
    Numeral.number? ⟨true, Nat.toDigits 10 n, none, none⟩ = some (.int (-n)) := by
  have hvalue : Nat.ofDigitChars 10 (Nat.toDigits 10 n) 0 = n := Nat.ofDigitChars_ten_toDigits
  have hlimit : n ≤ wordLimit := hn.trans (by decide)
  have hwhole : Gathered.ofWhole ⟨0, 0⟩ (Nat.toDigits 10 n) = ⟨n, 0⟩ := by
    rw [ofWhole_eq (by rwa [hvalue]), hvalue]
  simp [Numeral.number?, hwhole, hpos, hn]

theorem readNumeral_write {n : Number} (hn : n.IsWord) {rest : List Char}
    (hrest : EndsValue rest) :
    ∃ numeral, readNumeral (n.write ++ rest) = some (numeral, rest) ∧
      numeral.number? = some n := by
  cases n with
  | real negative x => exact hn.elim
  | int n =>
      obtain ⟨hleast, hgreatest⟩ := hn
      rw [Number.write, Stack.toList_toString_int]
      split
      · rename_i hnonneg
        have hnumber : Numeral.number? ⟨false, Nat.toDigits 10 n.toNat, none, none⟩ =
            some (.int n) := by
          rw [number?_toDigits (by omega), Int.toNat_of_nonneg hnonneg]
        exact ⟨_, readNumeral_toDigits _ hrest, hnumber⟩
      · rename_i hneg
        have hnumber : Numeral.number? ⟨true, Nat.toDigits 10 (-n).toNat, none, none⟩ =
            some (.int n) := by
          rw [number?_minus (by omega) (by omega), Int.toNat_of_nonneg (by omega), neg_neg]
        exact ⟨_, readNumeral_minus _ hrest, hnumber⟩

/-! ## Strings -/

theorem readCodes_cons_of_plain {c : Char} (hquote : c ≠ '"') (hbackslash : c ≠ '\\')
    (hcontrol : ¬c < ' ') (rest : List Char) :
    readCodes (c :: rest) = (readCodes rest).map fun (codes, rest) => (c.toNat :: codes, rest) := by
  rw [readCodes.eq_def]
  split <;> simp_all

theorem unit?_lowerHex {n : Nat} (hn : n < 32) :
    unit? '0' '0' (lowerHex (n / 16)) (lowerHex (n % 16)) = some n := by
  have hzero : hexDigit? '0' = some 0 := rfl
  have hhigh : hexDigit? (lowerHex (n / 16)) = some (n / 16) := hexDigit?_lowerHex (by omega)
  have hlow : hexDigit? (lowerHex (n % 16)) = some (n % 16) := hexDigit?_lowerHex (by omega)
  simp only [unit?, hzero, hhigh, hlow, Option.bind_eq_bind, Option.bind_some, Option.pure_def,
    Option.some.injEq]
  omega

theorem readCodes_letter {e c : Char} (he : e ≠ 'u') (hc : escaped? e = some c)
    (rest : List Char) :
    readCodes ('\\' :: e :: rest) =
      (readCodes rest).map fun (codes, rest) => (c.toNat :: codes, rest) := by
  rw [readCodes]
  · rw [hc]
    cases readCodes rest <;> rfl
  · intro _ _ _ _ _ hunit
    exact absurd hunit he

theorem readCodes_unit {a b c d : Char} {n : Nat} (hn : unit? a b c d = some n)
    (rest : List Char) :
    readCodes ('\\' :: 'u' :: a :: b :: c :: d :: rest) =
      (readCodes rest).map fun (codes, rest) => (n :: codes, rest) := by
  rw [readCodes, hn]
  cases readCodes rest <;> rfl

theorem readCodes_writeChar (c : Char) (rest : List Char) :
    readCodes (writeChar c ++ rest) =
      (readCodes rest).map fun (codes, rest) => (c.toNat :: codes, rest) := by
  unfold writeChar
  split_ifs with hquote hbackslash hback hfeed hline hreturn htab hcontrol
  · subst hquote
    exact readCodes_letter (by decide) rfl rest
  · subst hbackslash
    exact readCodes_letter (by decide) rfl rest
  · exact hback ▸ readCodes_letter (by decide) rfl rest
  · exact hfeed ▸ readCodes_letter (by decide) rfl rest
  · exact hline ▸ readCodes_letter (by decide) rfl rest
  · exact hreturn ▸ readCodes_letter (by decide) rfl rest
  · exact htab ▸ readCodes_letter (by decide) rfl rest
  · exact readCodes_unit (unit?_lowerHex hcontrol) rest
  · exact readCodes_cons_of_plain hquote hbackslash hcontrol rest

theorem readCodes_flatMap_writeChar (s rest : List Char) :
    readCodes (s.flatMap writeChar ++ '"' :: rest) = some (s.map Char.toNat, rest) := by
  induction s with
  | nil => rw [List.flatMap_nil, List.nil_append, readCodes]; rfl
  | cons c s ih =>
      rw [List.flatMap_cons, List.append_assoc, readCodes_writeChar, ih]
      rfl

theorem pair?_map_toNat (s : List Char) : pair? (s.map Char.toNat) = some s := by
  induction s with
  | nil => rfl
  | cons c s ih =>
      -- No character is half of a surrogate pair.
      have hvalid : c.toNat < 0xD800 ∨ 0xDFFF < c.toNat := by
        rcases c.valid with hlow | ⟨hhigh, -⟩
        · exact .inl hlow
        · exact .inr hhigh
      have hleading : isLeading c.toNat = false := by
        simp only [isLeading, Bool.and_eq_false_iff, decide_eq_false_iff_not]
        omega
      have htrailing : isTrailing c.toNat = false := by
        simp only [isTrailing, Bool.and_eq_false_iff, decide_eq_false_iff_not]
        omega
      rw [List.map_cons, pair?.eq_def]
      simp [hleading, htrailing, ih, Char.ofNat_toNat]

theorem readString_writeString (s : String) (rest : List Char) :
    readString (s.toList.flatMap writeChar ++ '"' :: rest) = some (some s, rest) := by
  rw [readString, readCodes_flatMap_writeChar]
  simp [pair?_map_toNat]

theorem writeString_append (s : String) (rest : List Char) :
    writeString s ++ rest = '"' :: (s.toList.flatMap writeChar ++ '"' :: rest) := by
  simp [writeString]

theorem beginsValue_of_isDigit {c : Char} (hc : c.isDigit = true) (rest : List Char) :
    BeginsValue (c :: rest) := by
  refine ⟨c, rest, rfl, ?_⟩
  intro hmem
  have hnone : ∀ d ∈ [' ', '\t', '\n', '\r', ']', '}'], d.isDigit = false := by simp
  rw [hnone c hmem] at hc
  cases hc

theorem exists_write_number_eq (n : Int) :
    ∃ c rest, Number.write (.int n) = c :: rest ∧ (c = '-' ∨ c.isDigit = true) := by
  rw [Number.write, Stack.toList_toString_int]
  split
  · obtain ⟨d, ds, hdigits⟩ :=
      List.exists_cons_of_ne_nil (Nat.toDigits_ne_nil (n := n.toNat) (b := 10))
    exact ⟨d, ds, hdigits, .inr (isDigit_of_mem_toDigits (n := n.toNat) (by simp [hdigits]))⟩
  · exact ⟨'-', _, rfl, .inl rfl⟩

theorem IsPlain.beginsValue {j : Json} (hj : j.IsPlain) : BeginsValue j.write := by
  cases hj with
  | null => exact ⟨'n', _, rfl, by decide⟩
  | bool b => cases b <;> exact ⟨_, _, rfl, by decide⟩
  | @number n hn =>
      cases n with
      | real negative x => exact hn.elim
      | int n =>
          obtain ⟨c, rest, hwrite, hc⟩ := exists_write_number_eq n
          rw [write, hwrite]
          rcases hc with rfl | hdigit
          · exact ⟨'-', rest, rfl, by decide⟩
          · exact beginsValue_of_isDigit hdigit rest
  | string s => exact ⟨'"', _, rfl, by decide⟩
  | array hitems => exact ⟨'[', _, by rw [write]; rfl, by decide⟩
  | object hmembers => exact ⟨'{', _, by rw [write]; rfl, by decide⟩

theorem readScalar_number {n : Number} (hn : n.IsWord) {rest : List Char}
    (hrest : EndsValue rest) : readScalar (n.write ++ rest) = some (.number n, rest) := by
  obtain ⟨numeral, hread, hnumber⟩ := readNumeral_write hn hrest
  cases n with
  | real negative x => exact hn.elim
  | int n =>
      obtain ⟨c, tail, hwrite, hc⟩ := exists_write_number_eq n
      have hother : c ≠ '"' ∧ c ≠ 'n' ∧ c ≠ 't' ∧ c ≠ 'f' := by
        refine ⟨?_, ?_, ?_, ?_⟩ <;> rintro rfl <;> simp [Char.isDigit] at hc
      rw [hwrite, List.cons_append] at hread ⊢
      rw [readScalar.eq_def]
      simp [hother, hread, hnumber]

theorem readScalar_string (s : String) (rest : List Char) :
    readScalar (writeString s ++ rest) = some (.string s, rest) := by
  rw [writeString_append, readScalar, readString_writeString]
  rfl

theorem readValue_of_scalar {c : Char} {tail : List Char}
    (hc : c ∉ [' ', '\t', '\n', '\r', '[', '{']) (allowed : Nat) :
    readValue allowed (c :: tail) = readScalar (c :: tail) := by
  have hstart : skipBlanks (c :: tail) = c :: tail := by
    apply skipBlanks_cons
    simp only [List.mem_cons, not_or] at hc ⊢
    simp [hc]
  simp only [List.mem_cons, List.not_mem_nil, or_false, not_or] at hc
  cases allowed <;> simp [readValue, hstart, hc]

/-! ## Values with parts -/

theorem skipBlanks_close {close : Char} (hclose : close = ']' ∨ close = '}') (rest : List Char) :
    skipBlanks (close :: rest) = close :: rest := by
  apply skipBlanks_cons
  rcases hclose with rfl | rfl <;> decide

/-- A row of parts, each of which is read as it was written, is read up to its closing bracket. -/
theorem readParts_intercalate {α β : Type} {close : Char} (hclose : close = ']' ∨ close = '}')
    {part : List Char → Option (β × List Char)} {write : α → List Char} {value : α → β}
    {parts : List α} (hne : parts ≠ [])
    (hpart : ∀ x ∈ parts, ∀ rest, EndsValue rest →
      part (write x ++ rest) = some (value x, rest)) (rest : List Char) :
    readParts close part ([','].intercalate (parts.map write) ++ close :: rest) =
      some (parts.map value, rest) := by
  have hend : EndsValue (close :: rest) := .cons (.inr hclose) rest
  induction parts with
  | nil => exact absurd rfl hne
  | cons x tail ih =>
      have hx := hpart x List.mem_cons_self
      by_cases htail : tail = []
      · subst htail
        rw [List.map_singleton, List.intercalate_singleton, readParts, hx _ hend]
        simp [skipBlanks_close hclose]
      · have hrow : [','].intercalate ((x :: tail).map write) ++ close :: rest =
            write x ++ ',' :: ([','].intercalate (tail.map write) ++ close :: rest) := by
          rw [List.map_cons, List.intercalate_cons_of_ne_nil (by simpa using htail)]
          simp
        have hcomma : ',' ≠ close := by
          rcases hclose with rfl | rfl <;> decide
        have hread := ih htail fun y hy => hpart y (List.mem_cons_of_mem x hy)
        have hcommaSkip (s : List Char) : skipBlanks (',' :: s) = ',' :: s :=
          skipBlanks_cons (by decide) s
        rw [hrow, readParts, hx _ (.cons (.inl rfl) _)]
        simp only [hcommaSkip, if_neg hcomma]
        rw [if_pos ⟨trivial, by simp only [List.length_append, List.length_cons]; omega⟩, hread]
        rfl

theorem readBody_intercalate {α β : Type} {close : Char} (hclose : close = ']' ∨ close = '}')
    {part : List Char → Option (β × List Char)} {write : α → List Char} {value : α → β}
    {parts : List α} (hbegins : ∀ x ∈ parts, BeginsValue (write x))
    (hpart : ∀ x ∈ parts, ∀ rest, EndsValue rest →
      part (write x ++ rest) = some (value x, rest)) (rest : List Char) :
    readBody close part ([','].intercalate (parts.map write) ++ close :: rest) =
      some (parts.map value, rest) := by
  cases parts with
  | nil =>
      rw [List.map_nil, List.intercalate_nil, List.nil_append, readBody, skipBlanks_close hclose]
      simp
  | cons x tail =>
      have hread := readParts_intercalate hclose (List.cons_ne_nil x tail) hpart rest
      obtain ⟨c, s, hwrite, hc⟩ := hbegins x List.mem_cons_self
      obtain ⟨others, hrow⟩ : ∃ others,
          [','].intercalate ((x :: tail).map write) ++ close :: rest = c :: others := by
        by_cases htail : tail = []
        · subst htail
          exact ⟨_, by rw [List.map_singleton, List.intercalate_singleton, hwrite]; rfl⟩
        · rw [List.map_cons, List.intercalate_cons_of_ne_nil (by simpa using htail), hwrite]
          exact ⟨_, rfl⟩
      rw [hrow] at hread ⊢
      simp only [List.mem_cons, List.not_mem_nil, or_false, not_or] at hc
      have hskip : skipBlanks (c :: others) = c :: others :=
        skipBlanks_cons (by simp [hc]) others
      have hopen : c ≠ close := by
        rcases hclose with rfl | rfl
        · exact hc.2.2.2.2.1
        · exact hc.2.2.2.2.2
      rw [readBody, hskip]
      exact (if_neg hopen).trans hread

theorem writeItems_eq (items : List Json) :
    writeItems items = [','].intercalate (items.map write) := by
  induction items with
  | nil => simp [writeItems]
  | cons j rest ih =>
      cases rest with
      | nil => simp [writeItems]
      | cons other others =>
          have hne : (other :: others).map write ≠ [] := by simp
          rw [List.map_cons, List.intercalate_cons_of_ne_nil hne, ← ih, writeItems]
          · simp
          · simp

def writeMember (member : String × Json) : List Char :=
  writeString member.1 ++ ':' :: write member.2

theorem writeMembers_eq (members : List (String × Json)) :
    writeMembers members = [','].intercalate (members.map writeMember) := by
  induction members with
  | nil => simp [writeMembers]
  | cons member rest ih =>
      obtain ⟨key, j⟩ := member
      cases rest with
      | nil => simp [writeMembers, writeMember]
      | cons other others =>
          have hne : (other :: others).map writeMember ≠ [] := by simp
          rw [List.map_cons, List.intercalate_cons_of_ne_nil hne, ← ih, writeMembers]
          · simp [writeMember]
          · simp

theorem readMember_writeMember {value : List Char → Option (Json × List Char)} (key : String)
    {j : Json} {rest : List Char} (hvalue : value (write j ++ rest) = some (j, rest)) :
    readMember value (writeMember (key, j) ++ rest) = some ((some key, j), rest) := by
  have hrow : writeMember (key, j) ++ rest =
      '"' :: (key.toList.flatMap writeChar ++ '"' :: (':' :: (write j ++ rest))) := by
    rw [writeMember, List.append_assoc, writeString_append]
    rfl
  have hquote (s : List Char) : skipBlanks ('"' :: s) = '"' :: s := skipBlanks_cons (by decide) s
  have hcolon (s : List Char) : skipBlanks (':' :: s) = ':' :: s := skipBlanks_cons (by decide) s
  rw [hrow, readMember, hquote]
  simp [readString_writeString, hcolon, hvalue]

theorem mapM_keys (members : List (String × Json)) :
    (members.map fun member => (some member.1, member.2)).mapM
      (fun member => member.1.map (·, member.2)) = some members := by
  induction members with
  | nil => rfl
  | cons member rest ih =>
      rw [List.map_cons, List.mapM_cons, ih]
      rfl

theorem ofMembers_of_keys (members : List (String × Json)) :
    ofMembers (members.map fun member => (some member.1, member.2)) = .object members := by
  have hmembers := mapM_keys members
  unfold ofMembers
  split
  · rename_i found hfound
    exact congrArg Json.object (Option.some.inj (hfound.symm.trans hmembers))
  · rename_i hnone
    cases hnone.symm.trans hmembers

theorem length_le_length_intercalate {texts : List (List Char)} {text : List Char}
    (htext : text ∈ texts) : text.length ≤ ([','].intercalate texts).length := by
  induction texts with
  | nil => cases htext
  | cons first rest ih =>
      by_cases hrest : rest = []
      · subst hrest
        rw [List.mem_singleton.mp htext, List.intercalate_singleton]
      · rw [List.intercalate_cons_of_ne_nil hrest, List.length_append, List.length_append]
        rcases List.mem_cons.mp htext with rfl | htext
        · omega
        · have hle := ih htext
          omega

theorem readValue_number {n : Number} (hn : n.IsWord) (allowed : Nat) {rest : List Char}
    (hrest : EndsValue rest) : readValue allowed (n.write ++ rest) = some (.number n, rest) := by
  have hread := readScalar_number hn hrest
  cases n with
  | real negative x => exact hn.elim
  | int n =>
      obtain ⟨c, tail, hwrite, hc⟩ := exists_write_number_eq n
      have hscalar : c ∉ [' ', '\t', '\n', '\r', '[', '{'] := by
        have hnone : ∀ d ∈ [' ', '\t', '\n', '\r', '[', '{'],
            ¬(d = '-' ∨ d.isDigit = true) := by simp
        exact fun hmem => hnone c hmem hc
      rw [hwrite, List.cons_append] at hread ⊢
      rw [readValue_of_scalar hscalar, hread]

theorem readValue_string (s : String) (allowed : Nat) (rest : List Char) :
    readValue allowed (writeString s ++ rest) = some (.string s, rest) := by
  have hread := readScalar_string s rest
  rw [writeString_append] at hread ⊢
  rw [readValue_of_scalar (by decide), hread]

theorem readValue_items {items : List Json} (hbegins : ∀ j ∈ items, BeginsValue j.write)
    {allowed : Nat} (hread : ∀ j ∈ items, ∀ rest, EndsValue rest →
      readValue allowed (j.write ++ rest) = some (j, rest)) (rest : List Char) :
    readValue (allowed + 1) ((Json.array items).write ++ rest) = some (.array items, rest) := by
  have hbody := readBody_intercalate (.inl rfl) hbegins hread rest
  have hrow : (Json.array items).write ++ rest =
      '[' :: ([','].intercalate (items.map Json.write) ++ ']' :: rest) := by
    simp [write, writeItems_eq]
  rw [List.map_id'] at hbody
  rw [hrow, readValue, skipBlanks_cons (by decide)]
  simp [hbody]

theorem readValue_members {members : List (String × Json)} {allowed : Nat}
    (hread : ∀ member ∈ members, ∀ rest, EndsValue rest →
      readValue allowed (member.2.write ++ rest) = some (member.2, rest)) (rest : List Char) :
    readValue (allowed + 1) ((Json.object members).write ++ rest) =
      some (.object members, rest) := by
  have hbegins : ∀ member ∈ members, BeginsValue (writeMember member) := by
    intro member hmember
    exact ⟨'"', _, rfl, by decide⟩
  have hpart : ∀ member ∈ members, ∀ rest, EndsValue rest →
      readMember (readValue allowed) (writeMember member ++ rest) =
        some ((some member.1, member.2), rest) := by
    intro member hmember rest hrest
    exact readMember_writeMember member.1 (hread member hmember rest hrest)
  have hbody := readBody_intercalate (.inr rfl) hbegins hpart rest
  have hrow : (Json.object members).write ++ rest =
      '{' :: ([','].intercalate (members.map writeMember) ++ '}' :: rest) := by
    simp [write, writeMembers_eq]
  rw [hrow, readValue, skipBlanks_cons (by decide)]
  simp [hbody, ofMembers_of_keys]

theorem length_write_lt_of_mem_items {items : List Json} {j : Json} (hj : j ∈ items) :
    j.write.length < (Json.array items).write.length := by
  have hle := length_le_length_intercalate (List.mem_map_of_mem (f := write) hj)
  rw [write, writeItems_eq, List.length_append, List.length_cons]
  omega

theorem length_write_lt_of_mem_members {members : List (String × Json)} {member : String × Json}
    (hmember : member ∈ members) :
    member.2.write.length < (Json.object members).write.length := by
  have hle := length_le_length_intercalate (List.mem_map_of_mem (f := writeMember) hmember)
  rw [writeMember, List.length_append, List.length_cons] at hle
  rw [write, writeMembers_eq, List.length_append, List.length_cons]
  omega

theorem IsPlain.readValue_write {j : Json} (hj : j.IsPlain) {allowed : Nat}
    (hallowed : j.write.length ≤ allowed) {rest : List Char} (hrest : EndsValue rest) :
    readValue allowed (j.write ++ rest) = some (j, rest) := by
  -- The depth allowed is bounded by the length of the text, and each part has a shorter text.
  induction hj generalizing allowed rest with
  | null =>
      rw [write]
      exact readValue_of_scalar (by decide) allowed
  | bool b =>
      cases b <;> rw [write] <;> exact readValue_of_scalar (by decide) allowed
  | number hn =>
      rw [write]
      exact readValue_number hn allowed hrest
  | string s =>
      rw [write]
      exact readValue_string s allowed rest
  | @array items hitems ih =>
      have hlength (j : Json) (hj : j ∈ items) := length_write_lt_of_mem_items hj
      have hpos : 0 < (Json.array items).write.length := by
        rw [write]
        exact Nat.succ_pos _
      obtain ⟨fewer, rfl⟩ : ∃ fewer, allowed = fewer + 1 := ⟨allowed - 1, by omega⟩
      apply readValue_items fun j hj => (hitems j hj).beginsValue
      intro j hj rest hrest
      have hlt := hlength j hj
      exact ih j hj (by omega) hrest
  | @object members hmembers ih =>
      have hlength (member : String × Json) (hmember : member ∈ members) :=
        length_write_lt_of_mem_members hmember
      have hpos : 0 < (Json.object members).write.length := by
        rw [write]
        exact Nat.succ_pos _
      obtain ⟨fewer, rfl⟩ : ∃ fewer, allowed = fewer + 1 := ⟨allowed - 1, by omega⟩
      apply readValue_members
      intro member hmember rest hrest
      have hlt := hlength member hmember
      exact ih member hmember (by omega) hrest

/-- A written value that stands alone is read as itself, however deep it nests. -/
theorem IsPlain.read?_write {j : Json} (hj : j.IsPlain) : read? j.write = some j := by
  have hread := hj.readValue_write (Nat.le_refl _) EndsValue.nil
  rw [List.append_nil] at hread
  rw [read?, readWithin?, hread]
  rfl

end ErrorOrigin.Json
