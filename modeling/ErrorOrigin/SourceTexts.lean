import ErrorOrigin.Candidates
import ErrorOrigin.Registry.Inquiry

/-!
# Source texts

The authored and the compiled text of a module, or of a path without a module.  Four places are
asked in turn: the cached map, the cached code, a fresh transform and the disk.  Each fills only
what is still missing, one that fails fills nothing, and none is asked in vain.
-/

namespace ErrorOrigin

open Text

structure SourceTexts where
  authored : Option String
  compiled : Option String
deriving DecidableEq, Repr

namespace SourceTexts

def isComplete (t : SourceTexts) : Bool :=
  t.authored.isSome && t.compiled.isSome

/-- What the server kept of a module. -/
def cached (m : Option ServedModule) : SourceTexts where
  authored := (m.bind ServedModule.cachedMap?).bind SourceMap.firstContent?
  compiled := m.bind ServedModule.cachedCode?

/-- What is missing, from a transform. -/
def fillFrom (t : SourceTexts) (transform : Transform) : SourceTexts where
  authored := t.authored.or (transform.map.bind SourceMap.firstContent?)
  compiled := t.compiled.or (some transform.code)

def withoutTrailingSlashes (s : String) : String :=
  String.ofList ((s.toList.reverse.dropWhile (· = '/')).reverse)

/-- A path from the root, below the directory of the project if there is one. -/
def belowRoot (root path : String) : List String :=
  if path.toList.head? = some '/' ∧ root ≠ "" then [withoutTrailingSlashes root ++ path] else []

/-- The files to try for a path: of a web address its decoded path below the project; otherwise
the path before any query, by itself and below the project. -/
def filesOfPath [DomainForms] (root path : String) : List String :=
  if Address.claimsWeb path then
    match Address.web? path with
    | some a => belowRoot root ((percentDecode? a.path.toList).getD a.path)
    | none => []
  else
    let file := String.ofList (upTo '?' path.toList)
    if file = "" then [] else file :: belowRoot root file

/-- The files to try: the one the module was made from, if it is known, else those of the path. -/
def files [DomainForms] (root : String) (m : Option ServedModule) (path : String) : List String :=
  match m.bind fun m => m.file.bind ServedModule.presentText? with
  | some file => [file]
  | none => filesOfPath root path

/-- The text of the first file that can be read. -/
def firstReadable : List String → Inquiry (Option String)
  | [] => pure none
  | file :: rest => do
    match ← Inquiry.query (.read file) with
    | .ok text => pure (some text)
    | .error _ => firstReadable rest

/-- The key to ask for a transform with: that of the module, else the first candidate. -/
def transformKey? (m : Option ServedModule) (candidates : CandidateSet) : Option String :=
  (m.bind ServedModule.transformKey?).or candidates.keys.head?

def afterTransform (t : SourceTexts) (key : Option String) : Inquiry SourceTexts :=
  match key with
  | some key => do
    match ← Inquiry.query (.transform key) with
    | .ok (some transform) => pure (t.fillFrom transform)
    | .ok none => pure t
    | .error _ => pure t
  | none => pure t

def afterDisk (t : SourceTexts) (files : List String) : Inquiry SourceTexts :=
  match t.authored with
  | some _ => pure t
  | none => do pure { t with authored := ← firstReadable files }

/-- The texts of a module, or of a path without one, in a project with this directory. -/
def retrieve [DomainForms] (root : String) (m : Option ServedModule) (path : String)
    (candidates : CandidateSet) : Inquiry SourceTexts :=
  let kept := cached m
  if kept.isComplete then pure kept
  else do
    let texts ← kept.afterTransform (transformKey? m candidates)
    texts.afterDisk (files root m path)

end SourceTexts

end ErrorOrigin
