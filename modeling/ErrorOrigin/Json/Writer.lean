import ErrorOrigin.Json.Numeral
import ErrorOrigin.Text.Hex

/-!
# Writing JSON text

Text without blanks.  In a string the quote, the backslash and the control characters are escaped,
by a letter where there is one; every other character stands for itself.
-/

namespace ErrorOrigin.Json

open Text

/-- How a character is written inside a string. -/
def writeChar (c : Char) : List Char :=
  if c = '"' then ['\\', '"']
  else if c = '\\' then ['\\', '\\']
  else if c = '\x08' then ['\\', 'b']
  else if c = '\x0c' then ['\\', 'f']
  else if c = '\n' then ['\\', 'n']
  else if c = '\r' then ['\\', 'r']
  else if c = '\t' then ['\\', 't']
  else if c < ' ' then
    ['\\', 'u', '0', '0', lowerHex (c.toNat / 16), lowerHex (c.toNat % 16)]
  else [c]

def writeString (s : String) : List Char :=
  '"' :: s.toList.flatMap writeChar ++ ['"']

mutual

/-- A scalar without meaning is written as `null`. -/
def write : Json → List Char
  | .null => "null".toList
  | .bool true => "true".toList
  | .bool false => "false".toList
  | .number n => n.write
  | .string s => writeString s
  | .array items => '[' :: writeItems items ++ [']']
  | .object members => '{' :: writeMembers members ++ ['}']
  | .meaningless => "null".toList

def writeItems : List Json → List Char
  | [] => []
  | [j] => write j
  | j :: rest => write j ++ ',' :: writeItems rest

def writeMembers : List (String × Json) → List Char
  | [] => []
  | [(key, j)] => writeString key ++ ':' :: write j
  | (key, j) :: rest => writeString key ++ ':' :: write j ++ ',' :: writeMembers rest

end

def render (j : Json) : String :=
  String.ofList j.write

end ErrorOrigin.Json
