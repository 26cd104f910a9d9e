/-!
# Blank characters

A character is blank when Unicode gives it the property `White_Space`.  Trimming, splitting into
words and the test whether a text shows anything at all are decided by this class, never by the
ASCII one.

Breaks are fewer: the tabs and line ends that a text may be written with and that are no part of it.
-/

namespace ErrorOrigin.Text

/-- The twenty-five characters with the Unicode property `White_Space`. -/
def isBlank (c : Char) : Bool :=
  let n := c.toNat
  (9 ≤ n && n ≤ 13) || n == 0x20 || n == 0x85 || n == 0xA0 || n == 0x1680 ||
    (0x2000 ≤ n && n ≤ 0x200A) || n == 0x2028 || n == 0x2029 || n == 0x202F ||
    n == 0x205F || n == 0x3000

def trimStart (s : List Char) : List Char :=
  s.dropWhile isBlank

def trimEnd (s : List Char) : List Char :=
  (s.reverse.dropWhile isBlank).reverse

/-- Drop characters from both ends, each end by a class of its own. -/
def strip (atStart atEnd : Char → Bool) (s : List Char) : List Char :=
  ((s.dropWhile atStart).reverse.dropWhile atEnd).reverse

def trim (s : List Char) : List Char :=
  strip isBlank isBlank s

/-- A text shows something when not all of it is blank. -/
def shows (s : List Char) : Bool :=
  s.any fun c => !isBlank c

/-- The maximal runs of characters that are not blank. -/
def words (s : List Char) : List (List Char) :=
  (s.splitOnP isBlank).filter (· ≠ [])

def isBreak (c : Char) : Bool :=
  c = '\t' || c = '\n' || c = '\r'

/-- The text without its breaks. -/
def joined (s : List Char) : List Char :=
  s.filter (!isBreak ·)

theorem trim_eq_trimEnd_trimStart (s : List Char) : trim s = trimEnd (trimStart s) := rfl

end ErrorOrigin.Text
