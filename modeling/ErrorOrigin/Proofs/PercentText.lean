import ErrorOrigin.Text.Percent
import Mathlib.Tactic

/-!
# Escaped texts

Decoding takes a text apart in the order in which escaping has put it together: an escape is one
byte, and any other character the bytes that it has.  So an escaped text decodes to what was
escaped, whatever stands around it, as long as the percent sign is escaped as well.  Escaping never
shortens a text, and keeps its length only if it leaves the text alone.
-/

namespace ErrorOrigin.Text

theorem bytes_append (s t : List Char) : bytes (s ++ t) = bytes s ++ bytes t :=
  List.flatMap_append

theorem utf8EncodeChar_ne_nil (c : Char) : String.utf8EncodeChar c ≠ [] := by
  apply List.ne_nil_of_length_pos
  rw [String.length_utf8EncodeChar]
  exact c.utf8Size_pos

theorem bytes_ne_nil {s : List Char} (hs : s ≠ []) : bytes s ≠ [] := by
  cases s with
  | nil => exact absurd rfl hs
  | cons c rest =>
      intro hnil
      exact utf8EncodeChar_ne_nil c
        (List.append_eq_nil_iff.mp (List.flatMap_cons.symm.trans hnil)).1

theorem ofBytes?_bytes (s : List Char) : ofBytes? (bytes s) = some (String.ofList s) := by
  have hvalid : (bytes s).toByteArray.IsValidUTF8 := ⟨s, rfl⟩
  unfold ofBytes? String.fromUTF8?
  rw [dif_pos hvalid]
  rfl

theorem bytes_of_ofBytes?_eq_some {bs : List UInt8} {text : String}
    (htext : ofBytes? bs = some text) : bytes text.toList = bs := by
  unfold ofBytes? String.fromUTF8? at htext
  split at htext
  next hvalid =>
    have hbytes : text.toByteArray = bs.toByteArray := by
      rw [← Option.some.inj htext]
      rfl
    rw [← List.toByteArray_inj, ← hbytes, ← String.utf8Encode_toList]
    rfl
  next => cases htext

/-- A byte below the others starts the one character that has this number. -/
theorem toNat_of_utf8EncodeChar_eq_cons {c : Char} {b : UInt8} {bs : List UInt8}
    (hb : b.toNat < 0x80) (hc : String.utf8EncodeChar c = b :: bs) : c.toNat = b.toNat := by
  unfold String.utf8EncodeChar at hc
  dsimp only at hc
  -- The first byte of a longer character is at least 0xC0.
  split at hc
  · obtain ⟨rfl, -⟩ := List.cons.inj hc
    rw [UInt8.toNat_ofNat']
    change c.val.toNat = _
    omega
  · repeat' split at hc
    all_goals
      obtain ⟨rfl, -⟩ := List.cons.inj hc
      rw [UInt8.toNat_ofNat'] at hb
      omega

/-! ## Decoding -/

theorem percentDecodeBytes_cons_of_ne {c : Char} (hc : c ≠ '%') (rest : List Char) :
    percentDecodeBytes (c :: rest) = String.utf8EncodeChar c ++ percentDecodeBytes rest := by
  rw [percentDecodeBytes]
  rintro a b tail rfl
  exact absurd rfl hc

/-- A text that starts with an ASCII character which is no escape is decoded to one that does. -/
theorem head_of_percentDecode?_eq_some {c : Char} (hascii : c.toNat < 0x80) (hc : c ≠ '%')
    {rest : List Char} {text : String} (htext : percentDecode? (c :: rest) = some text) :
    text.toList.head? = some c := by
  have hvalue : c.val.toUInt8.toNat = c.toNat := by
    rw [UInt32.toNat_toUInt8]
    exact Nat.mod_eq_of_lt (lt_trans hascii (by decide))
  have hsize : c.utf8Size = 1 :=
    Char.utf8Size_eq_one_iff.mpr (UInt32.le_iff_toNat_le.mpr (Nat.le_of_lt_succ hascii))
  have hbytes := bytes_of_ofBytes?_eq_some htext
  rw [percentDecodeBytes_cons_of_ne hc, String.utf8EncodeChar_eq_singleton hsize] at hbytes
  cases hchars : text.toList with
  | nil =>
      rw [hchars] at hbytes
      cases hbytes
  | cons d tail =>
      obtain ⟨b, bs, hd⟩ := List.exists_cons_of_ne_nil (utf8EncodeChar_ne_nil d)
      have hsplit : bytes (d :: tail) = String.utf8EncodeChar d ++ bytes tail := List.flatMap_cons
      rw [hchars, hsplit, hd] at hbytes
      obtain ⟨rfl, -⟩ := List.cons.inj hbytes
      have hsame := toNat_of_utf8EncodeChar_eq_cons (hvalue ▸ hascii) hd
      rw [List.head?_cons, Char.toNat_inj.mp (hsame.trans hvalue)]

theorem percentDecodeBytes_escapeByte_append (b : UInt8) (rest : List Char) :
    percentDecodeBytes (escapeByte b ++ rest) = b :: percentDecodeBytes rest := by
  have hescape : escapeByte b ++ rest =
      '%' :: upperHex (b.toNat / 16) :: upperHex (b.toNat % 16) :: rest := rfl
  rw [hescape, percentDecodeBytes, escapedByte?_escapeByte]

theorem percentDecodeBytes_escapes_append (bs : List UInt8) (rest : List Char) :
    percentDecodeBytes (bs.flatMap escapeByte ++ rest) = bs ++ percentDecodeBytes rest := by
  induction bs with
  | nil => rfl
  | cons b bs ih =>
      rw [List.flatMap_cons, List.append_assoc, percentDecodeBytes_escapeByte_append, ih,
        List.cons_append]

theorem percentDecodeBytes_append_of_no_percent {s : List Char} (hs : '%' ∉ s)
    (rest : List Char) : percentDecodeBytes (s ++ rest) = bytes s ++ percentDecodeBytes rest := by
  induction s with
  | nil => rfl
  | cons c s ih =>
      rw [List.mem_cons, not_or] at hs
      have hbytes : bytes (c :: s) = String.utf8EncodeChar c ++ bytes s := List.flatMap_cons
      rw [List.cons_append, percentDecodeBytes_cons_of_ne (Ne.symm hs.1), ih hs.2, hbytes,
        List.append_assoc]

/-! ## Escaping -/

/-- The character is escaped, being of this class, a control or outside ASCII. -/
def IsEscaped (escapes : Char → Bool) (c : Char) : Prop :=
  c.toNat < 0x20 ∨ 0x7F ≤ c.toNat ∨ escapes c = true

variable {escapes : Char → Bool}

theorem percentEncode_cons_of_escaped {c : Char} (hc : IsEscaped escapes c) (s : List Char) :
    percentEncode escapes (c :: s) =
      (String.utf8EncodeChar c).flatMap escapeByte ++ percentEncode escapes s := by
  unfold IsEscaped at hc
  rw [percentEncode, List.flatMap_cons, if_pos hc]
  rfl

theorem percentEncode_cons_of_not_escaped {c : Char} (hc : ¬IsEscaped escapes c)
    (s : List Char) : percentEncode escapes (c :: s) = c :: percentEncode escapes s := by
  unfold IsEscaped at hc
  rw [percentEncode, List.flatMap_cons, if_neg hc]
  rfl

/-- An escaped text decodes to itself, whatever follows it. -/
theorem percentDecodeBytes_percentEncode_append (hpercent : escapes '%' = true)
    (s rest : List Char) :
    percentDecodeBytes (percentEncode escapes s ++ rest) = bytes s ++ percentDecodeBytes rest := by
  induction s with
  | nil => rfl
  | cons c s ih =>
      have hbytes : bytes (c :: s) = String.utf8EncodeChar c ++ bytes s := List.flatMap_cons
      by_cases hc : IsEscaped escapes c
      · rw [percentEncode_cons_of_escaped hc, List.append_assoc,
          percentDecodeBytes_escapes_append, ih, hbytes, List.append_assoc]
      · have hne : c ≠ '%' := by
          rintro rfl
          exact hc (.inr (.inr hpercent))
        rw [percentEncode_cons_of_not_escaped hc, List.cons_append,
          percentDecodeBytes_cons_of_ne hne, ih, hbytes, List.append_assoc]

theorem mem_percentEncode {c : Char} {s : List Char} (hc : c ∈ percentEncode escapes s) :
    (c ∈ s ∧ ¬IsEscaped escapes c) ∨ c = '%' ∨ ∃ n < 16, c = upperHex n := by
  obtain ⟨d, hd, hmem⟩ := List.mem_flatMap.mp hc
  split at hmem
  next =>
    obtain ⟨b, -, hb⟩ := List.mem_flatMap.mp hmem
    have hlt := b.toNat_lt
    simp only [escapeByte, List.mem_cons, List.not_mem_nil, or_false] at hb
    rcases hb with rfl | rfl | rfl
    · exact .inr (.inl rfl)
    · exact .inr (.inr ⟨_, by omega, rfl⟩)
    · exact .inr (.inr ⟨_, by omega, rfl⟩)
  next hkept =>
    obtain rfl := List.mem_singleton.mp hmem
    exact .inl ⟨hd, hkept⟩

theorem one_lt_length_escapes (c : Char) :
    1 < ((String.utf8EncodeChar c).flatMap escapeByte).length := by
  have hc : 0 < (String.utf8EncodeChar c).length :=
    List.length_pos_of_ne_nil (utf8EncodeChar_ne_nil c)
  have hlength : ((String.utf8EncodeChar c).flatMap escapeByte).length =
      3 * (String.utf8EncodeChar c).length := by
    induction String.utf8EncodeChar c with
    | nil => rfl
    | cons b bs ih =>
        rw [List.flatMap_cons, List.length_append, ih, List.length_cons]
        simp only [escapeByte, List.length_cons, List.length_nil]
        omega
  omega

theorem length_le_length_percentEncode (s : List Char) :
    s.length ≤ (percentEncode escapes s).length := by
  induction s with
  | nil => exact Nat.le_refl 0
  | cons c s ih =>
      by_cases hc : IsEscaped escapes c
      · have hlong := one_lt_length_escapes c
        rw [percentEncode_cons_of_escaped hc, List.length_append, List.length_cons]
        omega
      · rw [percentEncode_cons_of_not_escaped hc, List.length_cons, List.length_cons]
        omega

theorem percentEncode_eq_self_iff {s : List Char} :
    percentEncode escapes s = s ↔ ∀ c ∈ s, ¬IsEscaped escapes c := by
  induction s with
  | nil => simp [percentEncode]
  | cons c s ih =>
      rw [List.forall_mem_cons, ← ih]
      by_cases hc : IsEscaped escapes c
      · refine iff_of_false ?_ (fun h => h.1 hc)
        intro hsame
        have hlong := one_lt_length_escapes c
        have hrest : s.length ≤ (percentEncode escapes s).length :=
          length_le_length_percentEncode s
        have hlength := congrArg List.length hsame
        rw [percentEncode_cons_of_escaped hc, List.length_append, List.length_cons] at hlength
        omega
      · rw [percentEncode_cons_of_not_escaped hc, List.cons_inj_right]
        simp [hc]

end ErrorOrigin.Text
