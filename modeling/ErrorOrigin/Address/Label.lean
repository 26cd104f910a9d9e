import ErrorOrigin.Address.Host
import ErrorOrigin.Text.Composed
import ErrorOrigin.Text.Direction
import ErrorOrigin.Text.DomainCharacter
import ErrorOrigin.Text.Joining
import ErrorOrigin.Text.Punycode

/-!
# Labels of domains

A label that starts with `xn--` is the ASCII form of another text, and that text has to be one that
could stand in its place: composed, of characters that a domain may hold, and beginning with none
that belongs to the one before it.  As soon as one label runs to the left somewhere, every label has
to keep its direction.

So a domain of ASCII characters is its own form if its labels may meet.  Bringing other characters
into ASCII, which takes mapping and composing them first, is left out: here such a domain has no
form.
-/

namespace ErrorOrigin

namespace Label

open Text

/-- The characters an ASCII form has at most after its mark. -/
def longestForm : Nat := 2000

/-- The characters a text with an ASCII form has at most. -/
def longestText : Nat := 1000

/-- Whether a text needs an ASCII form and may have one. -/
def hasForm (s : List Char) : Bool :=
  s.any (0x80 ≤ ·.toNat) && s.length ≤ longestText &&
    s.all (fun c => c.toNat < 0x80 || isDomainCharacter c) &&
    !s.head?.any isMark && joinersStand s && isComposed s

/-- The text a label stands for. -/
def text? (label : List Char) : Option (List Char) :=
  match dropStart? "xn--".toList label with
  | none => some label
  | some form =>
    if longestForm < form.length then none else (Punycode.decode? form).filter hasForm

/-- Whether labels may make up a domain. -/
def mayMeet (labels : List (List Char)) : Bool :=
  match labels.mapM text? with
  | none => false
  | some texts =>
    let directions := texts.map (·.map Direction.ofChar)
    !directions.any Direction.turns || directions.all Direction.isSteady

end Label

/-- The forms of domains that are written in ASCII already, by the tables at hand. -/
instance DomainForms.ofLabels : DomainForms where
  toAscii? domain :=
    let lower := domain.map Char.toLower
    if domain.all (·.toNat < 0x80) ∧ Label.mayMeet (Host.labels lower) then some lower else none

end ErrorOrigin
