/-!
# Web addresses

An address is kept in its parts, each already escaped, so that writing it is joining the parts.  The
empty host and no host at all differ: `file:///x` has the first, `mailto:x` the second.
-/

namespace ErrorOrigin

/-- A host: a name, or the number of a machine as one 32-bit or eight 16-bit words. -/
inductive Host where
  | name (s : String)
  | v4 (word : Nat)
  | v6 (words : List Nat)
deriving DecidableEq, Repr

/-- A path: segments that each follow a slash, or a text without structure. -/
inductive Route where
  | segments (list : List String)
  | plain (s : String)
deriving DecidableEq, Repr

structure Address where
  scheme : String
  username : String
  password : String
  host : Option Host
  portNumber : Option Nat
  route : Route
  query : Option String
  fragment : Option String
deriving DecidableEq, Repr

namespace Host

def empty : Host := .name ""

/-- The four bytes of a 32-bit word, joined by points. -/
def writeV4 (word : Nat) : String :=
  String.intercalate "." ([24, 16, 8, 0].map fun shift => toString ((word >>> shift) % 256))

/-- The number of zero words at the start. -/
def zeroRun (words : List Nat) : Nat :=
  (words.takeWhile (· = 0)).length

/-- Where the longest run of zero words starts, the first of several, and how long it is. -/
def longestZeroRun : List Nat → Nat × Nat
  | [] => (0, 0)
  | w :: rest =>
    let here := zeroRun (w :: rest)
    let (start, length) := longestZeroRun rest
    if length ≤ here then (0, here) else (start + 1, length)

def writeWords (words : List Nat) : String :=
  String.intercalate ":" (words.map fun w => String.ofList (Nat.toDigits 16 w))

/-- Hexadecimal words joined by colons; a longest run of at least two zeros is left out. -/
def writeV6 (words : List Nat) : String :=
  let (start, length) := longestZeroRun words
  if length < 2 then "[" ++ writeWords words ++ "]"
  else
    "[" ++ writeWords (words.take start) ++ "::" ++ writeWords (words.drop (start + length)) ++ "]"

def write : Host → String
  | .name s => s
  | .v4 word => writeV4 word
  | .v6 words => writeV6 words

end Host

def Route.write : Route → String
  | .segments list => String.join (list.map ("/" ++ ·))
  | .plain s => s

namespace Address

/-- The schemes whose addresses have a host, and the number each implies after it. -/
def defaultPortNumber? : String → Option Nat
  | "http" | "ws" => some 80
  | "https" | "wss" => some 443
  | "ftp" => some 21
  | _ => none

/-- In an address of a special scheme a backslash is a slash and the path is never empty. -/
def isSpecial (scheme : String) : Bool :=
  scheme = "file" || (defaultPortNumber? scheme).isSome

def path (a : Address) : String :=
  a.route.write

def writeCredentials (a : Address) : String :=
  if a.username = "" ∧ a.password = "" then ""
  else if a.password = "" then a.username ++ "@"
  else a.username ++ ":" ++ a.password ++ "@"

/-- What stands between the scheme and the path.  Without a host, a path that starts with two
slashes is set off from the scheme, lest its first segment read as a host. -/
def writeAuthority (a : Address) : String :=
  match a.host with
  | some host =>
    "//" ++ a.writeCredentials ++ host.write ++ a.portNumber.elim "" (":" ++ toString ·)
  | none =>
    match a.route with
    | .segments ("" :: _ :: _) => "/."
    | _ => ""

/-- The address up to its path. -/
def writeToPath (a : Address) : String :=
  a.scheme ++ ":" ++ a.writeAuthority ++ a.path

def write (a : Address) : String :=
  a.writeToPath ++ a.query.elim "" ("?" ++ ·) ++ a.fragment.elim "" ("#" ++ ·)

end Address

end ErrorOrigin
