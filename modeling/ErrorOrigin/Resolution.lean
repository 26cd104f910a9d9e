import ErrorOrigin.Candidates
import ErrorOrigin.Registry.Inquiry

/-!
# Resolving modules

The module behind a set of candidate keys.  Keys are looked up one by one, each by identifier and
then by address; the first hit wins, and a lookup that fails counts as a miss.  Only when no key
hits is every module scored, and the first of those with the best positive score wins.
-/

namespace ErrorOrigin

/-- A module and how well it matched. -/
structure Resolution where
  module : ServedModule
  score : Nat
deriving DecidableEq, Repr

namespace Resolution

def lookUpUrl (key : String) : Inquiry (Option ServedModule) := do
  match ← Inquiry.query (.byUrl key) with
  | .ok found => pure found
  | .error _ => pure none

/-- The module with this identifier, else the one at this address. -/
def lookUp (key : String) : Inquiry (Option ServedModule) := do
  match ← Inquiry.query (.byId key) with
  | .ok (some m) => pure (some m)
  | .ok none => lookUpUrl key
  | .error _ => lookUpUrl key

/-- The module of the first key that hits. -/
def firstHit : List String → Inquiry (Option ServedModule)
  | [] => pure none
  | key :: rest => do
    match ← lookUp key with
    | some m => pure (some m)
    | none => firstHit rest

/-- The better of a resolution and a module, in favour of the resolution. -/
def better (scoring : Scoring) (keys : List String) (best : Option Resolution)
    (m : ServedModule) : Option Resolution :=
  let score := m.score scoring keys
  if best.elim 0 (·.score) < score then some ⟨m, score⟩ else best

/-- The first module with the best positive score. -/
def best? (scoring : Scoring) (keys : List String) (modules : List ServedModule) :
    Option Resolution :=
  modules.foldl (better scoring keys) none

def resolve (candidates : CandidateSet) (scoring : Scoring) : Inquiry (Option Resolution) :=
  if candidates.keys = [] then pure none
  else do
    match ← firstHit candidates.keys with
    | some m => pure (some ⟨m, scoring.exact⟩)
    | none => pure (best? scoring candidates.keys (← Inquiry.query .modules))

/-- The module an identifier stands for. -/
def resolveIdentifier [DomainForms] (settings : Settings) (identifier : String) :
    Inquiry (Option Resolution) :=
  resolve (.ofIdentifier identifier settings.mount) settings.scoring

end Resolution

end ErrorOrigin
