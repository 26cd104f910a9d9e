import ErrorOrigin.Settings
import ErrorOrigin.SourceMap.Basic

/-!
# Served modules

A module that a development server compiles and serves: the address the browser asks for, perhaps an
identifier and a file, and the result of its last transform if the server kept it.
-/

namespace ErrorOrigin

/-- What compiling a module yields. -/
structure Transform where
  code : String
  map : Option SourceMap
deriving DecidableEq, Repr

structure ServedModule where
  url : String
  id : Option String
  file : Option String
  transform : Option Transform
deriving DecidableEq, Repr

namespace ServedModule

def presentText? (s : String) : Option String :=
  if s = "" then none else some s

theorem presentText?_eq_some_iff {s path : String} :
    presentText? s = some path ↔ s = path ∧ path ≠ "" := by
  unfold presentText?
  split
  · rename_i hempty
    simp [hempty, eq_comm]
  · rename_i hne
    rw [Option.some.injEq]
    constructor
    · rintro rfl
      exact ⟨rfl, hne⟩
    · exact And.left

theorem presentText?_eq_none_iff {s : String} : presentText? s = none ↔ s = "" := by
  unfold presentText?
  split <;> simp_all

/-- The paths a module can be matched by. -/
def paths (m : ServedModule) : List String :=
  [m.file, m.id, some m.url].filterMap (·.bind presentText?)

def cachedMap? (m : ServedModule) : Option SourceMap :=
  m.transform.bind (·.map)

def cachedCode? (m : ServedModule) : Option String :=
  m.transform.map (·.code)

/-- The key to ask for a transform with: the identifier, else the address. -/
def transformKey? (m : ServedModule) : Option String :=
  (m.id.bind presentText?).or (presentText? m.url)

/-- The best score of any of its paths with any of the keys. -/
def score (m : ServedModule) (scoring : Scoring) (keys : List String) : Nat :=
  (m.paths.flatMap fun path => keys.map (scoring.score path)).foldl max 0

end ServedModule

end ErrorOrigin
