import ErrorOrigin.Address.Host
import ErrorOrigin.Address.Route

/-!
# Reading addresses

An address is read on its own or as a reference from a base.  Blanks and controls around it do not
count, nor do breaks inside it, but for the path of a file.  The fragment is cut off at the first
`#` and the query at the first `?` before it; what is left is the scheme, the authority and the
path.
-/

namespace ErrorOrigin.Address

open Text

/-- The text without ASCII blanks and controls around it. -/
def trimmed (s : List Char) : List Char :=
  let atEdge (c : Char) : Bool := c.toNat ≤ 0x20
  strip atEdge atEdge s

/-- The text before the query, the query and the fragment, each with its breaks. -/
structure Parts where
  main : List Char
  query : Option (List Char)
  fragment : Option (List Char)

def Parts.ofText (s : List Char) : Parts :=
  let (s, fragment) := (cut? '#' s).elim (s, none) fun (s, f) => (s, some f)
  let (main, query) := (cut? '?' s).elim (s, none) fun (s, q) => (s, some q)
  ⟨main, query, fragment⟩

def Parts.isBare (p : Parts) : Bool :=
  p.query.isNone && p.fragment.isNone

def writeQuery (scheme : String) (q : List Char) : String :=
  String.ofList (percentEncode (Route.escapesQuery (isSpecial scheme)) (joined q))

def writeFragment (f : List Char) : String :=
  String.ofList (percentEncode Route.escapesFragment (joined f))

/-- An address with the query and the fragment of these parts. -/
def Parts.finish (p : Parts) (a : Address) : Address :=
  { a with
    query := p.query.map (writeQuery a.scheme)
    fragment := p.fragment.map writeFragment }

/-- A letter, then letters, digits and the three marks, up to a colon; in lower case. -/
def scheme? (s : List Char) : Option (String × List Char) := do
  let (name, rest) ← cut? ':' s
  let name := joined name
  let isMark (c : Char) : Bool := c = '+' || c = '-' || c = '.'
  if name.head?.any Char.isAlpha ∧ name.all (fun c => c.isAlphanum || isMark c) then
    pure (String.ofList (name.map Char.toLower), rest)
  else none

/-- The user name and the password before the last at sign of the authority, and what follows it. -/
def credentials? (special bare : Bool) (s : List Char) :
    Option (String × String × List Char) :=
  let region := s.takeWhile fun c => !Route.isSlash special c
  match cutLast? '@' region with
  | none => some ("", "", s)
  | some (userinfo, _) =>
    let rest := s.drop (userinfo.length + 1)
    let escape (t : List Char) := String.ofList (percentEncode Route.escapesUserinfo t)
    if userinfo = [] then
      if rest.head?.any (Route.isSlash special) ∨ (rest = [] ∧ ¬bare) then none
      else some ("", "", rest)
    else
      match cut? ':' userinfo with
      | none => some (escape userinfo, "", rest)
      | some (user, password) => some (escape user, escape password, rest)

/-- The host text: up to a slash, or to a colon outside brackets. -/
def hostText (special : Bool) : (inBrackets : Bool) → List Char → List Char
  | _, [] => []
  | inBrackets, c :: rest =>
    if Route.isSlash special c ∨ (c = ':' ∧ ¬inBrackets) then []
    else c :: hostText special (c = '[' || (inBrackets && c ≠ ']')) rest

/-- The number after a colon, unless it is the one the scheme implies, and what follows it. -/
def portNumber? (scheme : String) : List Char → Option (Option Nat × List Char)
  | ':' :: s =>
    let digits := s.takeWhile Char.isDigit
    let rest := s.dropWhile Char.isDigit
    let n := Nat.ofDigitChars 10 digits 0
    if 65535 < n ∨ rest.head?.any (fun c => c ≠ '/' ∧ c ≠ '\\') then none
    else some (if digits = [] ∨ defaultPortNumber? scheme = some n then none else some n, rest)
  | s => some (none, s)

/-- An address whose authority starts here. -/
def ofAuthority? [DomainForms] (scheme : String) (p : Parts) (s : List Char) : Option Address := do
  let special := isSpecial scheme
  let (username, password, s) ← credentials? special p.isBare s
  let text := hostText special false s
  let rest := s.drop text.length
  let host ← if special then Host.domain? text else Host.verbatim? text
  if host = .empty ∧ (special ∨ rest.head? = some ':' ∨ username ≠ "" ∨ password ≠ "") then none
  else
    let (portNumber, rest) ← portNumber? scheme rest
    pure (p.finish
      { scheme, username, password, host, portNumber
        route := Route.ofText special rest, query := none, fragment := none })

/-- An address without authority. -/
def ofPath (scheme : String) (p : Parts) (s : List Char) : Address :=
  let route : Route :=
    if s.head? = some '/' then Route.ofText false s
    else .plain (String.ofList (percentEncode (fun _ => false) s))
  p.finish
    { scheme, username := "", password := "", host := none, portNumber := none
      route, query := none, fragment := none }

/-- The address of a file on a host, whose path starts here.  A drive leaves no host. -/
def ofFileOn (p : Parts) (host : Host) (path : List Char) : Address :=
  p.finish
    { scheme := "file", username := "", password := "", portNumber := none
      host := some (if Route.hasDrive path then .empty else host)
      route := Route.ofFile path, query := none, fragment := none }

/-- The address of a file.  Two slashes start a host, unless what follows them is a drive.  The
local host goes without saying; the slash after it is then a segment of its own. -/
def ofFile? [DomainForms] (p : Parts) (s : List Char) : Option Address :=
  match (Route.afterSlash? true s).bind (Route.afterSlash? true) with
  | none => some (ofFileOn p .empty (Route.afterSlash true s))
  | some s => do
    let region := s.takeWhile fun c => !Route.isSlash true c
    let path := s.drop region.length
    let name := joined region
    if Route.isDriveLetter name then pure (ofFileOn p .empty s)
    else
      let host ← if name = [] then pure Host.empty else Host.domain? name
      if host = .empty ∨ host = .name "localhost" then pure (ofFileOn p .empty path)
      else pure (ofFileOn p host (Route.afterSlash true path))

/-- What follows two slashes at the start. -/
def afterSlashes? : List Char → Option (List Char)
  | '/' :: '/' :: rest => some rest
  | _ => none

/-- A reference from a base of the same special scheme. -/
def refer? [DomainForms] (base : Address) (p : Parts) : Option Address :=
  let slash := Route.isSlash true
  let slashes := p.main.takeWhile slash
  let segments (list : List String) : Address :=
    p.finish { base with route := .segments list }
  match base.route with
  | .plain _ => none
  | .segments above =>
    if p.main = [] then
      let a := p.finish base
      some (if p.query.isSome then a else { a with query := base.query })
    else if 2 ≤ slashes.length then
      ofAuthority? base.scheme p ((afterSlashes? p.main).getD (p.main.dropWhile slash))
    else if slashes.length = 1 then
      some (segments (Route.walk true [] (p.main.drop 1)))
    else
      some (segments (Route.walk true above.dropLast p.main))

/-- The address a text stands for, seen from a base if there is one. -/
def readFrom? [DomainForms] (base : Option Address) (text : List Char) : Option Address :=
  let p := Parts.ofText (trimmed text)
  match scheme? p.main with
  | none => base.bind (refer? · { p with main := joined p.main })
  | some (scheme, rest) =>
    if scheme = "file" then ofFile? p rest
    else
      let rest := joined rest
      if isSpecial scheme then
        let slashes := rest.takeWhile (Route.isSlash true)
        match base with
        | some base =>
          if slashes.length < 2 ∧ base.scheme = scheme then refer? base { p with main := rest }
          else ofAuthority? scheme p (rest.drop slashes.length)
        | none => ofAuthority? scheme p (rest.drop slashes.length)
      else
        match afterSlashes? rest with
        | some rest => ofAuthority? scheme p rest
        | none => some (ofPath scheme p rest)

/-- The address a text stands for on its own. -/
def read? [DomainForms] (text : String) : Option Address :=
  readFrom? none text.toList

/-- Whether a text claims to be a web address. -/
def claimsWeb (text : String) : Bool :=
  ["http://", "https://"].any fun start =>
    (text.toList.take start.length).map Char.toLower = start.toList

/-- The web address of a text, which has a host. -/
def web? [DomainForms] (text : String) : Option Address :=
  (read? text).filter fun a => (a.scheme = "http" || a.scheme = "https") && a.host.isSome

/-- The query, unless it is empty. -/
def search? (a : Address) : Option String :=
  a.query.filter (· ≠ "")

def pathAndSearch (a : Address) : String :=
  match a.search? with
  | some q => a.path ++ "?" ++ q
  | none => a.path

/-- The address a reference stands for on the page at `base`, or the reference as it is. -/
def resolve [DomainForms] (base : Address) (reference : String) : String :=
  (readFrom? (some base) reference.toList).elim reference write

end ErrorOrigin.Address
