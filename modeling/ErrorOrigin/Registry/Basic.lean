import ErrorOrigin.Registry.Module

/-!
# Registries

A registry knows the modules a server serves.  It answers queries one at a time, and an answer may
depend on what was asked before.  A query may fail, and then its answer is an error; while it
answers the registry may also break down, and then there is no answer at all.
-/

namespace ErrorOrigin

inductive RegistryError where
  | lookup (key reason : String)
  | transform (id reason : String)
  | read (path reason : String)
deriving DecidableEq, Repr

def RegistryError.message : RegistryError → String
  | .lookup key reason => "lookup of `" ++ key ++ "` failed: " ++ reason
  | .transform id reason => "transform of `" ++ id ++ "` failed: " ++ reason
  | .read path reason => "failed to read `" ++ path ++ "`: " ++ reason

inductive Query where
  /-- The module with this identifier. -/
  | byId (key : String)
  /-- The module at this address. -/
  | byUrl (key : String)
  /-- Every module, in the order of the registry. -/
  | modules
  /-- A fresh transform of the module with this identifier or at this address. -/
  | transform (key : String)
  /-- The text of the file at this path. -/
  | read (path : String)
deriving DecidableEq, Repr

abbrev Query.Answer : Query → Type
  | .byId _ => Except RegistryError (Option ServedModule)
  | .byUrl _ => Except RegistryError (Option ServedModule)
  | .modules => List ServedModule
  | .transform _ => Except RegistryError (Option Transform)
  | .read _ => Except RegistryError String

structure Registry where
  /-- The directory of the project. -/
  root : String
  /-- The answer to a query after others, unless the registry breaks down over it. -/
  answer : (past : List Query) → (q : Query) → Option q.Answer

namespace Registry

/-- The registry whose lookups of some keys fail. -/
def failingLookups (r : Registry) (fails : String → Bool) (reason : String) : Registry where
  root := r.root
  answer past
    | .byId key =>
      if fails key then some (.error (.lookup key reason)) else r.answer past (.byId key)
    | .byUrl key =>
      if fails key then some (.error (.lookup key reason)) else r.answer past (.byUrl key)
    | q => r.answer past q

/-- The registry that breaks down over transforms of some keys. -/
def breakingTransforms (r : Registry) (breaks : String → Bool) : Registry where
  root := r.root
  answer past
    | .transform key => if breaks key then none else r.answer past (.transform key)
    | q => r.answer past q

end Registry

end ErrorOrigin
