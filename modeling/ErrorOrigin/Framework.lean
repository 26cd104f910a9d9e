import ErrorOrigin.Position
import ErrorOrigin.Text.Blank
import ErrorOrigin.Text.Cut
import ErrorOrigin.Text.Numeral

/-!
# Framework diagnostics

Template compilers report errors in a form of their own and point right at the file of the user.  A
framework's messages are recognised by a mark in them; the position is then read out of the words.
-/

namespace ErrorOrigin

open Text

inductive Framework where
  | vue
  | svelte
deriving DecidableEq, Repr

namespace Framework

/-- The framework of a hint, in any case and with blanks around it. -/
def ofHint? (hint : String) : Option Framework :=
  let name := String.ofList ((trim hint.toList).map Char.toLower)
  if name = "vue" then some vue
  else if name = "svelte" then some svelte
  else none

/-- The words of a message without quotes, parentheses and punctuation around them. -/
def tokens (message : List Char) : List (List Char) :=
  let opens (c : Char) : Bool := "\"'`(".toList.contains c
  let closes (c : Char) : Bool := "\"'`),;:.".toList.contains c
  ((words message).map (strip opens closes)).filter (· ≠ [])

/-- Whether a file has an extension and a name before it. -/
def hasExtension (extension file : List Char) : Bool :=
  extension.length < file.length && extension.isSuffixOf file

def coordinate? (s : List Char) : Option Nat :=
  readPositive? Position.greatest s

/-- The text `line:column`. -/
def coordinates? (s : List Char) : Option (Nat × Nat) := do
  let (line, column) ← cut? ':' s
  pure (← coordinate? line, ← coordinate? column)

/-- The first `(line:column)`. -/
def parenthesized? : List Char → Option (Nat × Nat)
  | [] => none
  | c :: rest =>
    let here : Option (Nat × Nat) :=
      if c = '(' then (cut? ')' rest).bind (coordinates? ·.1) else none
    here.orElse fun _ => parenthesized? rest

/-- The text `file:line:column`, taken apart from the right. -/
def located? (s : List Char) : Option (List Char × Nat × Nat) := do
  let (front, column) ← cutLast? ':' s
  let column ← coordinate? column
  let (file, line) ← cutLast? ':' front
  let line ← coordinate? line
  if file = [] then none else pure (file, line, column)

def vueMark : List Char := "[vue/compiler-sfc]".toList

/-- The position in parentheses and the first word that is a `.vue` file. -/
def vuePosition? (message : List Char) : Option Position := do
  if occurs vueMark message then
    let (line, column) ← parenthesized? message
    let file ← (tokens message).find? (hasExtension ".vue".toList)
    pure ⟨String.ofList file, line, column⟩
  else none

/-- The first word that is a `.svelte` file with a line and a column. -/
def sveltePosition? (message : List Char) : Option Position :=
  if occurs "svelte".toList (message.map Char.toLower) then
    (tokens message).findSome? fun token => do
      let (file, line, column) ← located? token
      if hasExtension ".svelte".toList file then pure ⟨String.ofList file, line, column⟩ else none
  else none

/-- The position a message of the framework points at. -/
def position? (f : Framework) (message : String) : Option Position :=
  match f with
  | vue => vuePosition? message.toList
  | svelte => sveltePosition? message.toList

end Framework

end ErrorOrigin
