import ErrorOrigin.Proofs.PercentText
import ErrorOrigin.Proofs.VlqText
import Mathlib.Tactic

/-!
# Numbers gathered in a register

A reader that goes over the bytes of a text needs no digits kept apart: it adds each one at its
place to a word of 64 bits.  After `k` digits the word is below `32 ^ k`, and there are at most
twelve, so it stays below `2 ^ 60` and every shift, sum and change of sign is that of the integers.
Hence the register comes to what the decoder says, on every text, and at the same byte.
-/

namespace ErrorOrigin.SourceMap.Vlq

open Text

/-- The greatest place, counted in bits, at which one more digit is added. -/
def lastPlace : Nat := 55

/-- The numbers read so far, and of the one that has begun its digits, summed up, and the place of
the next. -/
structure Register where
  numbers : List Int64
  word : Int64
  place : Nat
deriving DecidableEq, Repr

namespace Register

def start : Register := ⟨[], 0, 0⟩

def signed (word : Int64) : Int64 :=
  if word &&& 1 = 1 then -(word >>> 1) else word >>> 1

def term (r : Register) (value : Nat) : Int64 :=
  Int64.ofNat (value % 32) <<< Int64.ofNat r.place

def take (r : Register) (b : UInt8) : Except Fault Register :=
  match value? (Char.ofNat b.toNat) with
  | none => .error (.invalidCharacter (Char.ofNat b.toNat))
  | some value =>
    if lastPlace < r.place then .error .overflow
    else if value < 32 then .ok ⟨r.numbers ++ [signed (r.word + r.term value)], 0, 0⟩
    else .ok ⟨r.numbers, r.word + r.term value, r.place + 5⟩

def finish (r : Register) : Except Fault (List Int64) :=
  if r.place = 0 then .ok r.numbers else .error .truncated

/-- The word holds these digits, the last one read in front. -/
structure Holds (r : Register) (begun : List Nat) : Prop where
  word : r.word = Int64.ofNat (ofDigits begun)
  place : r.place = 5 * begun.length
  digits : ∀ d ∈ begun, d < 32
  short : begun.length ≤ mostDigits

/-- The word and what is done to it are those of the integers. -/
structure IsExact (r : Register) : Prop where
  nonneg : 0 ≤ r.word.toInt
  le : r.word.toInt ≤ 2 ^ 60 - 1
  term : r.place ≤ lastPlace → ∀ value,
    (r.term value).toInt = (value % 32 : Nat) * 2 ^ r.place
  sum : r.place ≤ lastPlace → ∀ value,
    (r.word + r.term value).toInt = r.word.toInt + (r.term value).toInt ∧
      (r.word + r.term value).toInt ≤ 2 ^ 60 - 1
  signed : r.place ≤ lastPlace → ∀ value,
    (signed (r.word + r.term value)).toInt = ofSigned (r.word + r.term value).toInt.toNat

end Register

def readBytes (bytes : List UInt8) : Except Fault (List Int64) :=
  bytes.foldlM Register.take Register.start >>= Register.finish

theorem smod_place : ∀ place : Fin 64,
    (BitVec.ofNat 64 place).smod 64 = BitVec.ofNat 64 place := by
  decide

theorem ofNat_shiftLeft (n : Nat) {place : Nat} (hplace : place < 64) :
    Int64.ofNat n <<< Int64.ofNat place = Int64.ofNat (n * 2 ^ place) := by
  have hsmod := smod_place ⟨place, hplace⟩
  have hmod : place % 2 ^ 64 = place := Nat.mod_eq_of_lt (by omega)
  apply Int64.toBitVec_inj.mp
  rw [Int64.toBitVec_shiftLeft, Int64.toBitVec_ofNat', Int64.toBitVec_ofNat',
    Int64.toBitVec_ofNat', hsmod]
  apply BitVec.eq_of_toNat_eq
  rw [BitVec.shiftLeft_eq', BitVec.toNat_shiftLeft, BitVec.toNat_ofNat, BitVec.toNat_ofNat,
    BitVec.toNat_ofNat, hmod, Nat.shiftLeft_eq, Nat.mod_mul_mod]

theorem ofNat_half {n : Nat} (hn : n < 2 ^ 63) : Int64.ofNat n >>> 1 = Int64.ofNat (n / 2) := by
  apply Int64.toInt_inj.mp
  have hn' : (BitVec.ofNat 64 n).toInt = n := by
    rw [← Int64.toBitVec_ofNat', Int64.toInt_toBitVec, Int64.toInt_ofNat_of_lt hn]
  rw [Int64.toInt_ofNat_of_lt (by omega), ← Int64.toInt_toBitVec, Int64.toBitVec_shiftRight]
  simp [hn', Int.shiftRight_eq_div_pow]

theorem ofNat_and_one (n : Nat) : Int64.ofNat n &&& 1 = Int64.ofNat (n % 2) := by
  apply Int64.toBitVec_inj.mp
  rw [Int64.toBitVec_and, Int64.toBitVec_ofNat', Int64.toBitVec_ofNat']
  apply BitVec.eq_of_toNat_eq
  simp
  omega

theorem toInt_signed {n : Nat} (hn : n < 2 ^ 63) :
    (Register.signed (Int64.ofNat n)).toInt = ofSigned n := by
  have hhalf : (Int64.ofNat (n / 2)).toInt = (n / 2 : Nat) := Int64.toInt_ofNat_of_lt (by omega)
  have hodd : Int64.ofNat (n % 2) = 1 ↔ n % 2 = 1 := by
    rcases Nat.mod_two_eq_zero_or_one n with h | h <;> rw [h] <;> decide
  unfold Register.signed ofSigned
  rw [ofNat_and_one, ofNat_half hn]
  simp only [hodd]
  split
  · rw [Int64.toInt_neg, hhalf]
    apply Int.bmod_eq_of_le <;> omega
  · exact hhalf

theorem ofDigits_cons (d : Nat) (begun : List Nat) :
    ofDigits (d :: begun) = ofDigits begun + d * 2 ^ (5 * begun.length) := by
  rw [ofDigits_eq, ofDigits_eq, List.reverse_cons, Nat.ofDigits_append, List.length_reverse,
    Nat.ofDigits_singleton, pow_mul, Nat.mul_comm]
  rfl

/-! ## One letter -/

namespace Register

variable {r r' : Register} {begun : List Nat}

theorem Holds.length_lt_iff (hr : r.Holds begun) :
    begun.length < mostDigits ↔ r.place ≤ lastPlace := by
  rw [hr.place, mostDigits, lastPlace]
  omega

theorem Holds.cons_lt (hr : r.Holds begun) (hroom : begun.length < mostDigits) (value : Nat) :
    ofDigits (value % 32 :: begun) < 2 ^ 60 := by
  apply ofDigits_lt
  · intro d hd
    rcases List.mem_cons.mp hd with rfl | hd
    · exact Nat.mod_lt _ (by decide)
    · exact hr.digits d hd
  · exact hroom

theorem term_eq (hplace : r.place ≤ lastPlace) (value : Nat) :
    r.term value = Int64.ofNat (value % 32 * 2 ^ r.place) :=
  ofNat_shiftLeft _ (lt_of_le_of_lt hplace (by decide))

theorem Holds.word_add_term (hr : r.Holds begun) (hroom : begun.length < mostDigits)
    (value : Nat) : r.word + r.term value = Int64.ofNat (ofDigits (value % 32 :: begun)) := by
  rw [term_eq (hr.length_lt_iff.mp hroom), hr.word, ofDigits_cons, hr.place, Int64.ofNat_add]

theorem Holds.isExact (hr : r.Holds begun) : r.IsExact := by
  have hlt : ofDigits begun < 2 ^ 60 := ofDigits_lt hr.digits hr.short
  have hword : r.word.toInt = ofDigits begun := by
    rw [hr.word, Int64.toInt_ofNat_of_lt (by omega)]
  have hsum (hplace : r.place ≤ lastPlace) (value : Nat) :
      (r.word + r.term value).toInt = ofDigits (value % 32 :: begun) := by
    have hroom := hr.length_lt_iff.mpr hplace
    have hcons := hr.cons_lt hroom value
    rw [hr.word_add_term hroom, Int64.toInt_ofNat_of_lt (by omega)]
  have hterm (hplace : r.place ≤ lastPlace) (value : Nat) :
      (r.term value).toInt = (value % 32 * 2 ^ r.place : Nat) := by
    have hcons := hr.cons_lt (hr.length_lt_iff.mpr hplace) value
    rw [ofDigits_cons, ← hr.place] at hcons
    rw [term_eq hplace, Int64.toInt_ofNat_of_lt (by omega)]
  constructor
  · omega
  · omega
  · intro hplace value
    rw [hterm hplace value]
    push_cast
    rfl
  · intro hplace value
    have hcons := hr.cons_lt (hr.length_lt_iff.mpr hplace) value
    rw [hsum hplace, hterm hplace, hword]
    refine ⟨?_, by omega⟩
    rw [ofDigits_cons, hr.place]
    push_cast
    rfl
  · intro hplace value
    have hroom := hr.length_lt_iff.mpr hplace
    have hcons := hr.cons_lt hroom value
    rw [hsum hplace, hr.word_add_term hroom, toInt_signed (by omega), Int.toNat_natCast]

theorem take_of_none {b : UInt8} (hb : value? (Char.ofNat b.toNat) = none) :
    r.take b = .error (.invalidCharacter (Char.ofNat b.toNat)) := by
  rw [take, hb]

theorem take_of_full (hr : r.Holds begun) (hfull : begun.length = mostDigits) {b : UInt8}
    {value : Nat} (hb : value? (Char.ofNat b.toNat) = some value) :
    r.take b = .error .overflow := by
  have hplace : lastPlace < r.place := by
    rw [hr.place, hfull]
    decide
  rw [take, hb]
  exact if_pos hplace

theorem take_of_lt (hr : r.Holds begun) (hroom : begun.length < mostDigits) {b : UInt8}
    {value : Nat} (hb : value? (Char.ofNat b.toNat) = some value) (hlt : value < 32) :
    r.take b = .ok ⟨r.numbers ++ [signed (r.word + r.term value)], 0, 0⟩ := by
  have hplace : ¬lastPlace < r.place := Nat.not_lt.mpr (hr.length_lt_iff.mp hroom)
  rw [take, hb]
  exact (if_neg hplace).trans (if_pos hlt)

theorem take_of_ge (hr : r.Holds begun) (hroom : begun.length < mostDigits) {b : UInt8}
    {value : Nat} (hb : value? (Char.ofNat b.toNat) = some value) (hge : ¬value < 32) :
    r.take b = .ok ⟨r.numbers, r.word + r.term value, r.place + 5⟩ := by
  have hplace : ¬lastPlace < r.place := Nat.not_lt.mpr (hr.length_lt_iff.mp hroom)
  rw [take, hb]
  exact (if_neg hplace).trans (if_neg hge)

theorem holds_nil (numbers : List Int64) : (⟨numbers, 0, 0⟩ : Register).Holds [] := by
  constructor <;> simp [ofDigits]

theorem Holds.cons (hr : r.Holds begun) (hroom : begun.length < mostDigits)
    (numbers : List Int64) (value : Nat) :
    (⟨numbers, r.word + r.term value, r.place + 5⟩ : Register).Holds (value % 32 :: begun) := by
  refine ⟨hr.word_add_term hroom value, ?_, ?_, hroom⟩
  · change r.place + 5 = 5 * (begun.length + 1)
    rw [hr.place, Nat.mul_succ]
  · intro d hd
    rcases List.mem_cons.mp hd with rfl | hd
    · exact Nat.mod_lt _ (by decide)
    · exact hr.digits d hd

theorem Holds.length_eq_or_lt (hr : r.Holds begun) :
    begun.length = mostDigits ∨ begun.length < mostDigits :=
  hr.short.eq_or_lt

theorem Holds.take (hr : r.Holds begun) {b : UInt8} (hnext : r.take b = .ok r') :
    ∃ digits, r'.Holds digits := by
  cases hb : value? (Char.ofNat b.toNat) with
  | none =>
      rw [take_of_none hb] at hnext
      cases hnext
  | some value =>
      rcases hr.length_eq_or_lt with hfull | hroom
      · rw [take_of_full hr hfull hb] at hnext
        cases hnext
      · by_cases hlt : value < 32
        · rw [take_of_lt hr hroom hb hlt, Except.ok.injEq] at hnext
          exact ⟨[], hnext ▸ holds_nil _⟩
        · rw [take_of_ge hr hroom hb hlt, Except.ok.injEq] at hnext
          exact ⟨_, hnext ▸ hr.cons hroom r.numbers value⟩

theorem Holds.foldlM (hr : r.Holds begun) {read : List UInt8}
    (hread : read.foldlM Register.take r = .ok r') : ∃ digits, r'.Holds digits := by
  induction read generalizing r begun with
  | nil =>
      rw [List.foldlM_nil] at hread
      cases hread
      exact ⟨begun, hr⟩
  | cons b rest ih =>
      rw [List.foldlM_cons] at hread
      cases hnext : r.take b with
      | error fault =>
          rw [hnext] at hread
          cases hread
      | ok next =>
          obtain ⟨digits, hdigits⟩ := hr.take hnext
          rw [hnext] at hread
          exact ih hdigits hread

theorem isExact_of_foldlM {read : List UInt8} (hread : read.foldlM take start = .ok r) :
    r.IsExact := by
  obtain ⟨digits, hdigits⟩ := (holds_nil []).foldlM hread
  exact hdigits.isExact

end Register

theorem mem_alphabet_of_value? {c : Char} (hc : (value? c).isSome = true) : c ∈ alphabet := by
  rw [value?, List.findIdx?_isSome, List.any_eq_true] at hc
  obtain ⟨letter, hmem, heq⟩ := hc
  rwa [← of_decide_eq_true heq]

theorem toNat_lt_of_mem_alphabet {c : Char} (hc : c ∈ alphabet) : c.toNat < 0x80 := by
  have hall : alphabet.all (fun letter => letter.toNat < 0x80) = true := by decide
  simpa using List.all_eq_true.mp hall c hc

theorem utf8EncodeChar_of_lt {c : Char} (hc : c.toNat < 0x80) :
    String.utf8EncodeChar c = [UInt8.ofNat c.toNat] := by
  have hsize : c.utf8Size = 1 :=
    Char.utf8Size_eq_one_iff.mpr (UInt32.le_iff_toNat_le.mpr (Nat.le_of_lt_succ hc))
  rw [String.utf8EncodeChar_eq_singleton hsize]
  rfl

theorem ofNat_toNat_ofNat {c : Char} (hc : c.toNat < 0x80) :
    Char.ofNat (UInt8.ofNat c.toNat).toNat = c := by
  rw [UInt8.toNat_ofNat_of_lt' (by simp only [UInt8.size]; omega), Char.ofNat_toNat]

theorem value?_leadByte {c : Char} {b : UInt8} {others : List UInt8}
    (hbytes : String.utf8EncodeChar c = b :: others) (hc : value? c = none) :
    value? (Char.ofNat b.toNat) = none := by
  have hb : (Char.ofNat b.toNat).toNat = b.toNat := by
    have hlt := b.toNat_lt
    rw [Char.ofNat, dif_pos (.inl (by omega))]
    rfl
  -- A first byte below 0x80 is the whole character, which would be a letter then.
  by_contra hsome
  have hmem := mem_alphabet_of_value? (Option.isSome_iff_ne_none.mpr hsome)
  have hascii := toNat_lt_of_mem_alphabet hmem
  rw [hb] at hascii
  have hsame := toNat_of_utf8EncodeChar_eq_cons hascii hbytes
  rw [← hsame, Char.ofNat_toNat] at hsome
  exact hsome hc

/-! ## Whole texts -/

open Register in
/-- The register comes to what is decoded, from whatever digits it holds. -/
theorem foldlM_take_bytes {r : Register} {begun : List Nat} (hr : r.Holds begun)
    (text : List Char) :
    ((bytes text).foldlM Register.take r >>= finish).map (·.map Int64.toInt) =
      (decodeFrom begun text).map (r.numbers.map Int64.toInt ++ ·) := by
  induction text generalizing r begun with
  | nil =>
      have hplace : r.place = 0 ↔ begun = [] := by
        rw [hr.place, Nat.mul_eq_zero, List.length_eq_zero_iff]
        simp
      change (r.finish).map _ = _
      rw [finish, decodeFrom]
      simp only [hplace]
      split
      · simp [Except.map]
      · rfl
  | cons c rest ih =>
      have hsplit : bytes (c :: rest) = String.utf8EncodeChar c ++ bytes rest := List.flatMap_cons
      cases hc : value? c with
      | none =>
          obtain ⟨b, others, hbytes⟩ :=
            List.exists_cons_of_ne_nil (utf8EncodeChar_ne_nil c)
          -- Reading stops at the first byte of the character, and so does the decoder's report.
          have hlead : leadByte c = Char.ofNat b.toNat := by
            rw [leadByte, hbytes]
            rfl
          rw [hsplit, hbytes, List.cons_append, List.foldlM_cons,
            take_of_none (value?_leadByte hbytes hc), decodeFrom]
          simp only [hc, hlead]
          rfl
      | some value =>
          have hsome : (value? c).isSome = true := by rw [hc]; rfl
          have hascii := toNat_lt_of_mem_alphabet (mem_alphabet_of_value? hsome)
          have hb : value? (Char.ofNat (UInt8.ofNat c.toNat).toNat) = some value := by
            rw [ofNat_toNat_ofNat hascii, hc]
          rw [hsplit, utf8EncodeChar_of_lt hascii, List.singleton_append, List.foldlM_cons,
            decodeFrom]
          simp only [hc]
          rcases hr.length_eq_or_lt with hfull | hroom
          · rw [take_of_full hr hfull hb, if_pos hfull.ge]
            rfl
          · rw [if_neg (Nat.not_le.mpr hroom)]
            by_cases hlt : value < 32
            · have hnumber : (signed (r.word + r.term value)).toInt =
                  ofSigned (ofDigits (value % 32 :: begun)) := by
                have hcons := hr.cons_lt hroom value
                rw [hr.word_add_term hroom, toInt_signed (by omega)]
              rw [take_of_lt hr hroom hb hlt, if_pos hlt]
              refine (ih (holds_nil _)).trans ?_
              cases decodeFrom [] rest with
              | error fault => rfl
              | ok tail => simp [Except.map, hnumber]
            · rw [take_of_ge hr hroom hb hlt, if_neg hlt]
              exact ih (hr.cons hroom r.numbers value)

theorem readBytes_bytes (text : List Char) :
    (readBytes (bytes text)).map (·.map Int64.toInt) = decode text := by
  have hread := foldlM_take_bytes (Register.holds_nil []) text
  rw [readBytes, decode]
  refine hread.trans ?_
  cases decodeFrom [] text <;> rfl

/-! ## Numbers that are too large -/

/-- A number from `32 ^ k` on has at least `k` letters before the one that ends it. -/
theorem exists_encodeNat_eq_append {n k : Nat} (hn : 32 ^ k ≤ n) :
    ∃ begun c rest, encodeNat n = begun ++ c :: rest ∧ begun.length = k ∧
      (∀ d ∈ begun, continues d = true) ∧ (value? c).isSome = true := by
  induction k generalizing n with
  | zero =>
      rw [encodeNat]
      split
      · exact ⟨[], _, [], rfl, rfl, by simp, by rw [value?_letter (by omega)]; rfl⟩
      · exact ⟨[], _, _, rfl, rfl, by simp, by rw [value?_letter (by omega)]; rfl⟩
  | succ k ih =>
      have hlarge : ¬n < 32 := by
        have hpow : 32 ^ 1 ≤ 32 ^ (k + 1) := Nat.pow_le_pow_right (by decide) (by omega)
        omega
      have hquotient : 32 ^ k ≤ n / 32 := by
        rw [Nat.le_div_iff_mul_le (by decide), ← pow_succ]
        exact hn
      obtain ⟨begun, c, rest, htext, hlength, hbegun, hc⟩ := ih hquotient
      refine ⟨letter (n % 32 + 32) :: begun, c, rest, ?_, ?_, ?_, hc⟩
      · rw [encodeNat, if_neg hlarge, htext, List.cons_append]
      · rw [List.length_cons, hlength]
      · intro d hd
        rcases List.mem_cons.mp hd with rfl | hd
        · exact continues_letter (by omega) (by omega)
        · exact hbegun d hd

theorem toSigned_lt_iff (i : Int) : toSigned i < 2 ^ 60 ↔ i.natAbs < 2 ^ 59 := by
  unfold toSigned
  split <;> omega

theorem offends_encode_of_large {front rest : List Int} {i : Int}
    (hfront : ∀ j ∈ front, j.natAbs < 2 ^ 59) (hi : 2 ^ 59 ≤ i.natAbs) :
    Offends (encode (front ++ i :: rest)) .overflow := by
  have hlarge : 32 ^ mostDigits ≤ toSigned i := by
    have hnot := mt (toSigned_lt_iff i).mp (Nat.not_lt.mpr hi)
    exact le_trans (by decide) (Nat.not_lt.mp hnot)
  obtain ⟨begun, c, others, htext, hlength, hbegun, hc⟩ := exists_encodeNat_eq_append hlarge
  have hgroups : ∀ group ∈ front.map fun j => encodeNat (toSigned j), IsGroup group := by
    intro group hgroup
    obtain ⟨j, hj, rfl⟩ := List.mem_map.mp hgroup
    exact isGroup_encodeNat ((toSigned_lt_iff j).mpr (hfront j hj))
  have hencode : encode (front ++ i :: rest) =
      (front.map fun j => encodeNat (toSigned j)).flatten ++
        (begun ++ c :: (others ++ encode rest)) := by
    rw [encode, List.flatMap_append, List.flatMap_cons, htext, ← List.flatMap_def]
    simp [encode]
  rw [hencode]
  exact .overflow ⟨hgroups, hbegun, hlength.le⟩ hlength hc

theorem exists_first_large {list : List Int} (hlarge : ¬∀ i ∈ list, i.natAbs < 2 ^ 59) :
    ∃ front i rest, list = front ++ i :: rest ∧ (∀ j ∈ front, j.natAbs < 2 ^ 59) ∧
      2 ^ 59 ≤ i.natAbs := by
  obtain ⟨i, hi⟩ : ∃ i, list.find? (fun i => decide (2 ^ 59 ≤ i.natAbs)) = some i := by
    rw [← Option.isSome_iff_exists, List.find?_isSome]
    push Not at hlarge
    simpa using hlarge
  obtain ⟨hlargest, front, rest, hlist, hfront⟩ := List.find?_eq_some_iff_append.mp hi
  refine ⟨front, i, rest, hlist, ?_, by simpa using hlargest⟩
  simpa using hfront

theorem decode_encode_eq (list : List Int) :
    decode (encode list) =
      if ∀ i ∈ list, i.natAbs < 2 ^ 59 then .ok list else .error .overflow := by
  split
  next hsmall => exact decode_encode hsmall
  next hlarge =>
    obtain ⟨front, i, rest, rfl, hfront, hi⟩ := exists_first_large hlarge
    exact decode_of_offends (offends_encode_of_large hfront hi)

theorem decode_eq_ok_iff (text : List Char) (values : List Int) :
    decode text = .ok values ↔ ∃ groups : List (List Char), text = groups.flatten ∧
      (∀ group ∈ groups, IsGroup group) ∧ values = groups.map groupValue := by
  rw [(decode_iff text).1 values]
  constructor
  · rintro ⟨⟨groups, rfl, hgroups⟩, rfl⟩
    exact ⟨groups, rfl, hgroups, numbers_flatten hgroups⟩
  · rintro ⟨groups, rfl, hgroups, rfl⟩
    exact ⟨⟨groups, rfl, hgroups⟩, (numbers_flatten hgroups).symm⟩

/-- What a text decodes to, and that a register of 64 bits is enough to decode it. -/
theorem decode_outcome (list : List Int) (text : List Char) :
    decode (encode list) =
        (if ∀ i ∈ list, i.natAbs < 2 ^ 59 then .ok list else .error .overflow) ∧
      (∀ values, decode text = .ok values ↔ ∃ groups : List (List Char),
        text = groups.flatten ∧ (∀ group ∈ groups, IsGroup group) ∧
          values = groups.map groupValue) ∧
      (∀ group, IsGroup group → (groupValue group).natAbs < 2 ^ 59) ∧
      (∀ fault, decode text = .error fault ↔ Offends text fault) ∧
      (readBytes (bytes text)).map (·.map Int64.toInt) = decode text ∧
      ∀ (read : List UInt8) (r : Register),
        read.foldlM Register.take Register.start = .ok r → r.IsExact :=
  ⟨decode_encode_eq list, decode_eq_ok_iff text, fun _ => natAbs_groupValue_lt,
    (decode_iff text).2, readBytes_bytes text, fun _ _ => Register.isExact_of_foldlM⟩

/-- The longest number with its greatest digits, a zero with a digit too many and a negative zero;
and the register that is as full as it can be. -/
theorem decode_outcome_of_fullest_group :
    let fullest := List.replicate 11 '/' ++ ['f']
    let r : Register := ⟨[], 2 ^ 60 - 1, 60⟩
    IsGroup fullest ∧ (groupValue fullest).natAbs < 2 ^ 59 ∧
      decode (fullest ++ ['g', 'A'] ++ ['B']) = .ok [-(2 ^ 59 - 1), 0, 0] ∧
      (List.replicate 12 47).foldlM Register.take Register.start = .ok r ∧ r.IsExact := by
  intro fullest r
  have hfullest : IsGroup fullest := by
    refine ⟨List.replicate 11 '/', 'f', rfl, by decide, ?_, rfl⟩
    intro c hc
    rw [List.eq_of_mem_replicate hc]
    rfl
  have hzero : IsGroup ['g', 'A'] := by
    refine ⟨['g'], 'A', rfl, by decide, ?_, rfl⟩
    intro c hc
    rw [List.mem_singleton.mp hc]
    rfl
  have hnegative : IsGroup ['B'] := ⟨[], 'B', rfl, by decide, by simp, rfl⟩
  have hregister : (List.replicate 12 47).foldlM Register.take Register.start = .ok r := by
    decide +kernel
  obtain ⟨-, hok, hsmall, -, -, hexact⟩ :=
    decode_outcome [] (fullest ++ ['g', 'A'] ++ ['B'])
  refine ⟨hfullest, hsmall fullest hfullest, ?_, hregister, hexact _ r hregister⟩
  rw [hok]
  exact ⟨[fullest, ['g', 'A'], ['B']], rfl, by simp [hfullest, hzero, hnegative], by decide⟩

end ErrorOrigin.SourceMap.Vlq
