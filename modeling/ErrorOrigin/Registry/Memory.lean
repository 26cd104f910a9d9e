import ErrorOrigin.Registry.Basic
import Std.Data.HashMap

/-!
# Registries in memory

Modules are indexed by identifier and by address as they come in, the later one taking the place
of the earlier; all of them stay listed.  Transforms are what was put there, and a key that is to
fail does so whatever was put there.
-/

namespace ErrorOrigin

structure ModuleStore where
  /-- Every module, in the order of insertion. -/
  modules : List ServedModule := []
  byId : Std.HashMap String ServedModule := {}
  byUrl : Std.HashMap String ServedModule := {}
  transforms : Std.HashMap String Transform := {}
  /-- The reasons for which transforms fail. -/
  failing : Std.HashMap String String := {}

namespace ModuleStore

def empty : ModuleStore := {}

/-- Index a module under a key, unless the key is empty. -/
def index (entries : Std.HashMap String ServedModule) (key : String) (m : ServedModule) :
    Std.HashMap String ServedModule :=
  if key = "" then entries else entries.insert key m

def insert (s : ModuleStore) (m : ServedModule) : ModuleStore :=
  { s with
    modules := s.modules ++ [m]
    byId := index s.byId (m.id.getD "") m
    byUrl := index s.byUrl m.url m }

def setTransform (s : ModuleStore) (key : String) (t : Transform) : ModuleStore :=
  { s with transforms := s.transforms.insert key t }

def failTransform (s : ModuleStore) (key reason : String) : ModuleStore :=
  { s with failing := s.failing.insert key reason }

def size (s : ModuleStore) : Nat :=
  s.modules.length

def isEmpty (s : ModuleStore) : Bool :=
  s.modules.isEmpty

def transform (s : ModuleStore) (key : String) : Except RegistryError (Option Transform) :=
  match s.failing[key]? with
  | some reason => .error (.transform key reason)
  | none => .ok s.transforms[key]?

/-- The registry of a store, with a project directory and files to read. -/
def registry (s : ModuleStore) (root : String) (files : String → Except RegistryError String) :
    Registry where
  root
  answer _
    | .byId key => some (.ok s.byId[key]?)
    | .byUrl key => some (.ok s.byUrl[key]?)
    | .modules => some s.modules
    | .transform key => some (s.transform key)
    | .read path => some (files path)

end ModuleStore

end ErrorOrigin
