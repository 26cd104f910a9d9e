import ErrorOrigin.Address.Basic
import ErrorOrigin.Text.Cut
import ErrorOrigin.Text.Percent

/-!
# Reading hosts

The host of a special scheme is a domain: percent-decoded, brought into its ASCII form, free of the
characters that separate the parts of an address, and a 32-bit number if its last label is one.  Any
other host is kept as it is, controls escaped.  Brackets enclose eight 16-bit words.

A domain with characters outside ASCII, or with a label that stands for such a text, has a form that
follows tables of all characters, and these are revised every year.  So the form of such a domain
is a parameter: what is said of addresses is said for every way to bring domains into ASCII.
-/

namespace ErrorOrigin

/-- How a domain that is not plain is brought into ASCII, if it can be. -/
class DomainForms where
  toAscii? : (domain : List Char) → Option (List Char)

namespace Host

open Text

def isForbidden (c : Char) : Bool :=
  c.toNat ≤ 0x20 || c.toNat = 0x7F || "%#/:<>?@[\\]^|".toList.contains c

def isForbiddenVerbatim (c : Char) : Bool :=
  "\x00\t\n\r #/:<>?@[\\]^|".toList.contains c

/-- The value of digits in a base, each of which must be one of it; none digits are zero. -/
def valueIn? (base : Nat) (digits : List Char) : Option Nat :=
  digits.foldlM (fun n c => do
    let d ← hexDigit? c
    if d < base then pure (base * n + d) else none) 0

/-- One part of a number: hexadecimal after `0x`, octal after `0`, otherwise decimal. -/
def numberPart? : List Char → Option Nat
  | [] => none
  | '0' :: 'x' :: digits => valueIn? 16 digits
  | '0' :: 'X' :: digits => valueIn? 16 digits
  | '0' :: d :: digits => valueIn? 8 (d :: digits)
  | digits => valueIn? 10 digits

/-- The labels of a domain, without the empty one after a point at its end. -/
def labels (s : List Char) : List (List Char) :=
  let ls := s.splitOn '.'
  if ls.getLast? = some [] then ls.dropLast else ls

/-- A domain whose last label is a number, or all digits, has to be a number as a whole. -/
def endsInNumber (s : List Char) : Bool :=
  match (labels s).getLast? with
  | some label =>
    (!label.isEmpty && label.all Char.isDigit) || (numberPart? label).isSome
  | none => false

/-- Up to four parts: each but the last is one byte, the last one fills the bytes that are left. -/
def v4? (s : List Char) : Option Nat := do
  let parts ← (labels s).mapM numberPart?
  if 4 < parts.length then none
  else
    let last ← parts.getLast?
    let bytes := parts.dropLast
    let room := 8 * (4 - bytes.length)
    if bytes.any (255 < ·) ∨ 0 < last >>> room then none
    else pure ((bytes.foldl (fun n byte => 256 * n + byte) 0 <<< room) + last)

/-- A decimal byte without leading zeros. -/
def decimalByte? (s : List Char) : Option Nat :=
  if s.isEmpty ∨ (s.head? = some '0' ∧ 1 < s.length) ∨ ¬s.all Char.isDigit then none
  else (valueIn? 10 s).filter (· ≤ 255)

/-- Four decimal bytes, as two words. -/
def dottedWords? (s : List Char) : Option (List Nat) := do
  match ← (s.splitOn '.').mapM decimalByte? with
  | [a, b, c, d] => pure [a * 256 + b, c * 256 + d]
  | _ => none

def word? (s : List Char) : Option Nat :=
  if s.isEmpty ∨ 4 < s.length then none else valueIn? 16 s

/-- Words joined by colons, the last of which may be two words in dotted form. -/
def words? (dotted : Bool) (s : List Char) : Option (List Nat) :=
  if s.isEmpty then some []
  else
    let parts := s.splitOn ':'
    match parts.dropLast.mapM word?, parts.getLast? with
    | some front, some last =>
      match word? last with
      | some w => some (front ++ [w])
      | none => if dotted then (dottedWords? last).map (front ++ ·) else none
    | _, _ => none

/-- Eight words; two colons in a row stand for at least one word that is zero. -/
def v6? (s : List Char) : Option (List Nat) :=
  match cutText? "::".toList s with
  | some (front, back) => do
    let front ← words? false front
    let back ← words? true back
    let given := front.length + back.length
    if given < 8 then pure (front ++ List.replicate (8 - given) 0 ++ back) else none
  | none => (words? true s).filter (·.length = 8)

/-- What stands in brackets, if the text starts with one. -/
def bracketed? : List Char → Option (Option Host)
  | '[' :: s =>
    if s.getLast? = some ']' then some ((v6? s.dropLast).map .v6) else some none
  | _ => none

/-- A domain of ASCII characters none of whose labels stands for another text. -/
def isPlain (domain : List Char) : Bool :=
  domain.all (·.toNat < 0x80) &&
    (labels domain).all fun label => (dropStart? "xn--".toList (label.map Char.toLower)).isNone

/-- The ASCII form of a domain: of a plain one, the domain in lower case. -/
def asciiForm? [DomainForms] (domain : List Char) : Option (List Char) :=
  if isPlain domain then some (domain.map Char.toLower) else DomainForms.toAscii? domain

/-- The host of a special scheme. -/
def domain? [DomainForms] (s : List Char) : Option Host :=
  match bracketed? s with
  | some host => host
  | none => do
    let decoded ← percentDecode? s
    let domain ← asciiForm? decoded.toList
    if domain.isEmpty ∨ domain.any isForbidden then none
    else if endsInNumber domain then (v4? domain).map .v4
    else pure (.name (String.ofList domain))

/-- The host of any other scheme. -/
def verbatim? (s : List Char) : Option Host :=
  match bracketed? s with
  | some host => host
  | none =>
    if s.any isForbiddenVerbatim then none
    else some (.name (String.ofList (percentEncode (fun _ => false) s)))

end Host

end ErrorOrigin
