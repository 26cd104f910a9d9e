import ErrorOrigin.Address.Basic
import ErrorOrigin.Text.Blank
import ErrorOrigin.Text.Cut
import ErrorOrigin.Text.Percent

/-!
# Reading paths

A path is read piece by piece, the pieces being what slashes separate.  One dot is the segment it
stands in, two dots are the segment above it, whether the dots are escaped or not; both leave a
slash behind at the end of a path.  A drive is not a segment one can leave.

The path of a file is read with the breaks in it.  They do not count, except that one after a drive
ends the segment.
-/

namespace ErrorOrigin.Route

open Text

def escapesFragment (c : Char) : Bool :=
  " \"<>`".toList.contains c

def escapesPath (c : Char) : Bool :=
  escapesFragment c || "#?\x7b\x7d".toList.contains c

def escapesUserinfo (c : Char) : Bool :=
  escapesPath c || "/:;=@[\\]^|".toList.contains c

def escapesQuery (special : Bool) (c : Char) : Bool :=
  " \"#<>".toList.contains c || (special && c = '\'')

/-- Whether the character separates the segments of a path. -/
def isSlash (special : Bool) (c : Char) : Bool :=
  c = '/' || (special && c = '\\')

/-- How many dots a piece stands for, if it is written with nothing else. -/
def dots? : List Char → Option Nat
  | [] => some 0
  | '.' :: rest => (dots? rest).map (· + 1)
  | '%' :: '2' :: 'e' :: rest => (dots? rest).map (· + 1)
  | '%' :: '2' :: 'E' :: rest => (dots? rest).map (· + 1)
  | _ => none

def isDriveLetter : List Char → Bool
  | [letter, mark] => letter.isAlpha && (mark = ':' || mark = '|')
  | _ => false

/-- Whether a segment is a drive, or starts with one and a backslash. -/
def isDrive : List Char → Bool
  | letter :: mark :: rest => isDriveLetter [letter, mark] && rest.head?.all (· = '\\')
  | _ => false

/-- Leave the last segment, unless it is a drive. -/
def leave (segments : List String) : List String :=
  match segments.getLast? with
  | some last => if isDrive last.toList then segments else segments.dropLast
  | none => []

/-- The letter of a drive and what a break after its colon parts from it. -/
def partedDrive? (piece : List Char) : Option (Char × List Char) :=
  match piece.dropWhile isBreak with
  | [] => none
  | letter :: rest =>
    match rest.dropWhile isBreak with
    | ':' :: mark :: tail =>
      if letter.isAlpha ∧ isBreak mark ∧ joined tail ≠ [] then some (letter, joined tail) else none
    | _ => none

/-- The segments a piece without dots is.  The first one of the path to a file may be a drive
letter, which a colon follows then; a break after a colon that is there already ends the segment. -/
def place (ofFile : Bool) (done : List String) (piece : List Char) : List String :=
  let escaped (s : List Char) := String.ofList (percentEncode escapesPath s)
  if ofFile ∧ done = [] then
    match joined piece, partedDrive? piece with
    | [letter, mark], _ =>
      if isDriveLetter [letter, mark] then [String.ofList [letter, ':']]
      else [escaped [letter, mark]]
    | _, some (letter, tail) => [String.ofList [letter, ':'], escaped tail]
    | text, none => [escaped text]
  else [escaped (joined piece)]

/-- The segments after one more piece. -/
def step (ofFile : Bool) (done : List String) (piece : List Char) (isLast : Bool) : List String :=
  let stop := if isLast then [""] else []
  match dots? (joined piece) with
  | some 1 => done ++ stop
  | some 2 => leave done ++ stop
  | _ => done ++ place ofFile done piece

/-- The segments after these pieces. -/
def follow (ofFile : Bool) (done : List String) : List (List Char) → List String
  | [] => done
  | piece :: rest => follow ofFile (step ofFile done piece rest.isEmpty) rest

/-- Whether one of these pieces names a drive, being the first segment by then. -/
def namesDrive (done : List String) : List (List Char) → Bool
  | [] => false
  | piece :: rest =>
    (done.isEmpty && isDriveLetter (joined piece)) ||
      namesDrive (step true done piece rest.isEmpty) rest

/-- The segments that a path without its first slash leads to from `done`. -/
def walk (special : Bool) (done : List String) (s : List Char) : List String :=
  follow false done (s.splitOnP (isSlash special))

/-- What follows the slash at the start. -/
def afterSlash? (special : Bool) (s : List Char) : Option (List Char) :=
  match s.dropWhile isBreak with
  | [] => none
  | c :: rest => if isSlash special c then some rest else none

/-- Without the first slash, if there is one. -/
def afterSlash (special : Bool) (s : List Char) : List Char :=
  (afterSlash? special s).getD s

/-- The segments of a path that stands alone.  A special path has at least one. -/
def ofText (special : Bool) (s : List Char) : Route :=
  .segments (if ¬special ∧ s = [] then [] else walk special [] (afterSlash special s))

/-- The path of a file, from a slash on.  Empty segments at the start are dropped. -/
def ofFile (s : List Char) : Route :=
  let kept := (follow true [] (s.splitOnP (isSlash true))).dropWhile (· = "")
  .segments (if kept = [] then [""] else kept)

/-- Whether the path of a file, from a slash on, starts with a drive. -/
def hasDrive (s : List Char) : Bool :=
  namesDrive [] (s.splitOnP (isSlash true))

end ErrorOrigin.Route
