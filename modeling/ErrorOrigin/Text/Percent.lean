import ErrorOrigin.Text.Hex

/-!
# Percent-encoding

A percent sign and two hexadecimal digits stand for one byte.  A percent sign that two digits do
not follow stands for itself, so every text decodes to bytes; only bytes that are UTF-8 are a text
again.
-/

namespace ErrorOrigin.Text

def bytes (s : List Char) : List UInt8 :=
  s.flatMap String.utf8EncodeChar

/-- The text of these bytes, if they are UTF-8. -/
def ofBytes? (bs : List UInt8) : Option String :=
  String.fromUTF8? bs.toByteArray

/-- The byte of an escape whose digits are these. -/
def escapedByte? (high low : Char) : Option UInt8 := do
  let h ← hexDigit? high
  let l ← hexDigit? low
  pure (UInt8.ofNat (h * 16 + l))

def percentDecodeBytes : List Char → List UInt8
  | [] => []
  | '%' :: a :: b :: rest =>
    match escapedByte? a b with
    | some byte => byte :: percentDecodeBytes rest
    | none => String.utf8EncodeChar '%' ++ percentDecodeBytes (a :: b :: rest)
  | c :: rest => String.utf8EncodeChar c ++ percentDecodeBytes rest

/-- The decoded text, unless its bytes are not UTF-8. -/
def percentDecode? (s : List Char) : Option String :=
  ofBytes? (percentDecodeBytes s)

def escapeByte (b : UInt8) : List Char :=
  ['%', upperHex (b.toNat / 16), upperHex (b.toNat % 16)]

/-- Escape the characters of a class, and with it every control and every non-ASCII character. -/
def percentEncode (escapes : Char → Bool) (s : List Char) : List Char :=
  s.flatMap fun c =>
    if c.toNat < 0x20 ∨ 0x7F ≤ c.toNat ∨ escapes c then
      (String.utf8EncodeChar c).flatMap escapeByte
    else [c]

theorem escapedByte?_escapeByte (b : UInt8) :
    escapedByte? (upperHex (b.toNat / 16)) (upperHex (b.toNat % 16)) = some b := by
  have hb := b.toNat_lt
  have hh : b.toNat / 16 < 16 := by omega
  have hl : b.toNat % 16 < 16 := by omega
  have h : b.toNat / 16 * 16 + b.toNat % 16 = b.toNat := by omega
  simp only [escapedByte?, hexDigit?_upperHex hh, hexDigit?_upperHex hl]
  change some (UInt8.ofNat (b.toNat / 16 * 16 + b.toNat % 16)) = some b
  rw [h, UInt8.ofNat_toNat]

end ErrorOrigin.Text
