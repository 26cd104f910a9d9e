import ErrorOrigin.Json.Numeral
import ErrorOrigin.Text.Cut
import ErrorOrigin.Text.Hex

/-!
# Reading JSON text

Each reader takes what is left of the text and yields a result with what is left after it.
Reading a value descends at most as many levels as it is allowed, so that number is what the
recursion runs on.  Who keeps every part of a value allows few levels; where the parts that nest
are passed over, the depth does not matter.
-/

namespace ErrorOrigin.Json

open Text

def skipBlanks (s : List Char) : List Char :=
  s.dropWhile fun c => c = ' ' || c = '\t' || c = '\n' || c = '\r'

/-- The UTF-16 unit of four hexadecimal digits. -/
def unit? (a b c d : Char) : Option Nat := do
  let w ← hexDigit? a
  let x ← hexDigit? b
  let y ← hexDigit? c
  let z ← hexDigit? d
  pure (((w * 16 + x) * 16 + y) * 16 + z)

/-- What a backslash and one character stand for. -/
def escaped? : Char → Option Char
  | '"' => some '"'
  | '\\' => some '\\'
  | '/' => some '/'
  | 'b' => some '\x08'
  | 'f' => some '\x0c'
  | 'n' => some '\n'
  | 'r' => some '\r'
  | 't' => some '\t'
  | _ => none

/-- The numbers of the characters of a string, after its opening quote and up to its closing one.
A four-digit escape yields the unit it names, be it half of a pair. -/
def readCodes : List Char → Option (List Nat × List Char)
  | [] => none
  | '"' :: rest => some ([], rest)
  | '\\' :: 'u' :: a :: b :: c :: d :: rest =>
    match unit? a b c d, readCodes rest with
    | some n, some (codes, rest) => some (n :: codes, rest)
    | _, _ => none
  | '\\' :: e :: rest =>
    match escaped? e, readCodes rest with
    | some c, some (codes, rest) => some (c.toNat :: codes, rest)
    | _, _ => none
  | c :: rest =>
    if c < ' ' then none
    else (readCodes rest).map fun (codes, rest) => (c.toNat :: codes, rest)

def isLeading (n : Nat) : Bool := 0xD800 ≤ n && n ≤ 0xDBFF

def isTrailing (n : Nat) : Bool := 0xDC00 ≤ n && n ≤ 0xDFFF

/-- The characters of these numbers, surrogates joined to pairs; none if one is left alone. -/
def pair? : List Nat → Option (List Char)
  | [] => some []
  | n :: rest =>
    if isLeading n then
      match rest with
      | m :: rest =>
        if isTrailing m then
          (pair? rest).map (Char.ofNat (0x10000 + (n - 0xD800) * 0x400 + (m - 0xDC00)) :: ·)
        else none
      | [] => none
    else if isTrailing n then none
    else (pair? rest).map (Char.ofNat n :: ·)

/-- A string after its opening quote, which stands for nothing if a surrogate is left alone. -/
def readString (s : List Char) : Option (Option String × List Char) :=
  (readCodes s).map fun (codes, rest) => ((pair? codes).map String.ofList, rest)

/-- The digits at the start, of which there is at least one. -/
def readDigits (s : List Char) : Option (List Char × List Char) :=
  match s.span Char.isDigit with
  | ([], _) => none
  | (digits, rest) => some (digits, rest)

/-- The digits before the point: a zero stands alone. -/
def readWhole : List Char → Option (List Char × List Char)
  | '0' :: rest =>
    if rest.head?.any Char.isDigit then none else some (['0'], rest)
  | s => readDigits s

def readFraction : List Char → Option (Option (List Char) × List Char)
  | '.' :: rest => (readDigits rest).map fun (digits, rest) => (some digits, rest)
  | s => some (none, s)

def readExponent : List Char → Option (Option Int × List Char)
  | c :: rest =>
    if c = 'e' ∨ c = 'E' then
      let (negative, rest) : Bool × List Char :=
        match rest with
        | '-' :: rest => (true, rest)
        | '+' :: rest => (false, rest)
        | rest => (false, rest)
      (readDigits rest).map fun (digits, rest) =>
        let n : Int := Nat.ofDigitChars 10 digits 0
        (some (if negative then -n else n), rest)
    else some (none, c :: rest)
  | [] => some (none, [])

def readNumeral (s : List Char) : Option (Numeral × List Char) := do
  let (negative, s) : Bool × List Char :=
    match s with
    | '-' :: s => (true, s)
    | s => (false, s)
  let (whole, s) ← readWhole s
  let (fraction, s) ← readFraction s
  let (exponent, s) ← readExponent s
  pure (⟨negative, whole, fraction, exponent⟩, s)

/-- A value without parts. -/
def readScalar (s : List Char) : Option (Json × List Char) :=
  let word (w : String) (j : Json) := (dropStart? w.toList s).map (j, ·)
  match s with
  | '"' :: rest =>
    (readString rest).map fun (text, rest) => (text.elim .meaningless .string, rest)
  | 'n' :: _ => word "null" .null
  | 't' :: _ => word "true" (.bool true)
  | 'f' :: _ => word "false" (.bool false)
  | _ =>
    (readNumeral s).map fun (n, rest) => (n.number?.elim .meaningless .number, rest)

/-- Parts separated by commas, at least one, up to `close`. -/
def readParts (close : Char) (part : List Char → Option (α × List Char)) (s : List Char) :
    Option (List α × List Char) :=
  match part s with
  | none => none
  | some (x, rest) =>
    match skipBlanks rest with
    | [] => none
    | c :: rest =>
      if c = close then some ([x], rest)
      else if c = ',' ∧ rest.length < s.length then
        (readParts close part rest).map fun (xs, rest) => (x :: xs, rest)
      else none
termination_by s.length

/-- What follows an opening bracket, up to `close`. -/
def readBody (close : Char) (part : List Char → Option (α × List Char)) (s : List Char) :
    Option (List α × List Char) :=
  match skipBlanks s with
  | c :: rest => if c = close then some ([], rest) else readParts close part (c :: rest)
  | [] => none

def readMember (value : List Char → Option (Json × List Char)) (s : List Char) :
    Option ((Option String × Json) × List Char) :=
  match skipBlanks s with
  | '"' :: rest => do
    let (key, rest) ← readString rest
    match skipBlanks rest with
    | ':' :: rest =>
      let (j, rest) ← value rest
      pure ((key, j), rest)
    | _ => none
  | _ => none

/-- An object of these members, if every key stands for a text. -/
def ofMembers (members : List (Option String × Json)) : Json :=
  match members.mapM fun (key, j) => key.map (·, j) with
  | some members => .object members
  | none => .meaningless

/-- A value that nests at most as deep as allowed. -/
def readValue : (allowed : Nat) → List Char → Option (Json × List Char)
  | 0, s =>
    match skipBlanks s with
    | '[' :: _ => none
    | '{' :: _ => none
    | s => readScalar s
  | allowed + 1, s =>
    match skipBlanks s with
    | '[' :: rest =>
      (readBody ']' (readValue allowed) rest).map fun (items, rest) => (.array items, rest)
    | '{' :: rest =>
      (readBody '}' (readMember (readValue allowed)) rest).map fun (members, rest) =>
        (ofMembers members, rest)
    | s => readScalar s

/-- The value of a text that holds one value and nothing else, nested at most as deep as allowed. -/
def readWithin? (allowed : Nat) (text : List Char) : Option Json :=
  match readValue allowed text with
  | some (j, rest) => if skipBlanks rest = [] then some j else none
  | none => none

/-- The value of a text, however deep it nests, which is less deep than the text is long. -/
def read? (text : List Char) : Option Json :=
  readWithin? text.length text

end ErrorOrigin.Json
