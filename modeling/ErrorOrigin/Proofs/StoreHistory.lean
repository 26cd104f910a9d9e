import ErrorOrigin.Proofs.FailingLookUps
import Mathlib.Tactic

/-!
# What a store recalls of its history

The five tables of a store are kept apart, yet after any history each of them is read off the
history alone: the modules are those that were inserted, in order, and under a key there is what the
last operation that wrote to this key has left.  One operation at the end of a history changes a
table exactly as it changes this reading.
-/

namespace ErrorOrigin.ModuleStore

inductive Operation where
  | insert (m : ServedModule)
  | setTransform (key : String) (t : Transform)
  | failTransform (key reason : String)
deriving DecidableEq, Repr

namespace Operation

def inserted? : Operation → Option ServedModule
  | insert m => some m
  | _ => none

def transform? (key : String) : Operation → Option Transform
  | setTransform other t => if other = key then some t else none
  | _ => none

def reason? (key : String) : Operation → Option String
  | failTransform other reason => if other = key then some reason else none
  | _ => none

end Operation

def perform (s : ModuleStore) : Operation → ModuleStore
  | .insert m => s.insert m
  | .setTransform key t => s.setTransform key t
  | .failTransform key reason => s.failTransform key reason

def ofHistory (history : List Operation) : ModuleStore :=
  history.foldl perform empty

def inserted (history : List Operation) : List ServedModule :=
  history.filterMap Operation.inserted?

/-- What the last of the operations that write to a place has written there. -/
def lastWritten? {α : Type} (write : Operation → Option α) (history : List Operation) : Option α :=
  (history.filterMap write).getLast?

/-- The last of the modules that has the key as this name; an empty key is the name of none. -/
def lastNamed? (name : ServedModule → Option String) (key : String)
    (modules : List ServedModule) : Option ServedModule :=
  if key = "" then none else (modules.filter fun m => name m = some key).getLast?

/-- Every table of the store is what the history says. -/
structure Recalls (s : ModuleStore) (history : List Operation) : Prop where
  modules : s.modules = inserted history
  byId : ∀ key, s.byId[key]? = lastNamed? (·.id) key (inserted history)
  byUrl : ∀ key, s.byUrl[key]? = lastNamed? (fun m => some m.url) key (inserted history)
  transforms : ∀ key, s.transforms[key]? = lastWritten? (Operation.transform? key) history
  failing : ∀ key, s.failing[key]? = lastWritten? (Operation.reason? key) history

variable {s : ModuleStore} {history : List Operation}

/-! ## One more operation -/

theorem inserted_append (history : List Operation) (op : Operation) :
    inserted (history ++ [op]) = inserted history ++ op.inserted?.toList := by
  rw [inserted, List.filterMap_append]
  cases op <;> rfl

theorem lastWritten?_append {α : Type} (write : Operation → Option α) (history : List Operation)
    (op : Operation) :
    lastWritten? write (history ++ [op]) = (write op).or (lastWritten? write history) := by
  rw [lastWritten?, lastWritten?, List.filterMap_append, List.getLast?_append]
  cases hop : write op <;> simp [hop]

theorem lastNamed?_append (name : ServedModule → Option String) (key : String)
    (modules : List ServedModule) (m : ServedModule) :
    lastNamed? name key (modules ++ [m]) =
      if key ≠ "" ∧ name m = some key then some m else lastNamed? name key modules := by
  unfold lastNamed?
  by_cases hempty : key = ""
  · simp [hempty]
  · by_cases hname : name m = some key <;> simp [hempty, hname, List.filter_append]

theorem getElem?_index_eq_lastNamed? {entries : Std.HashMap String ServedModule}
    {name : ServedModule → Option String} {modules : List ServedModule}
    (hentries : ∀ key, entries[key]? = lastNamed? name key modules) (m : ServedModule)
    (key : String) :
    (index entries ((name m).getD "") m)[key]? = lastNamed? name key (modules ++ [m]) := by
  -- A module without an id is indexed under the empty key, which is the key of nothing.
  have hcondition : ((name m).getD "" = key ∧ (name m).getD "" ≠ "") ↔
      (key ≠ "" ∧ name m = some key) := by
    cases hname : name m with
    | none => simp
    | some other =>
        rw [Option.getD_some, Option.some.injEq]
        constructor
        · rintro ⟨rfl, hne⟩
          exact ⟨hne, rfl⟩
        · rintro ⟨hne, rfl⟩
          exact ⟨rfl, hne⟩
  rw [getElem?_index, lastNamed?_append, hentries]
  exact if_congr hcondition rfl rfl

theorem getElem?_insert_eq_lastWritten? {α : Type} {entries : Std.HashMap String α}
    {write : String → Operation → Option α}
    (hentries : ∀ key, entries[key]? = lastWritten? (write key) history) {op : Operation}
    {key : String} {a : α} (hop : ∀ other, write other op = if key = other then some a else none)
    (other : String) :
    (entries.insert key a)[other]? = lastWritten? (write other) (history ++ [op]) := by
  rw [Std.HashMap.getElem?_insert, lastWritten?_append, hop, hentries]
  by_cases hkey : key = other <;> simp [hkey]

theorem empty_recalls : Recalls empty [] := by
  constructor <;> simp [empty, inserted, lastNamed?, lastWritten?]

theorem Recalls.insert (hs : s.Recalls history) (m : ServedModule) :
    (s.insert m).Recalls (history ++ [.insert m]) := by
  have hinserted : inserted (history ++ [.insert m]) = inserted history ++ [m] :=
    inserted_append history (.insert m)
  constructor
  · rw [hinserted, ← hs.modules]
    rfl
  · intro key
    rw [hinserted]
    exact getElem?_index_eq_lastNamed? hs.byId m key
  · intro key
    rw [hinserted]
    exact getElem?_index_eq_lastNamed? hs.byUrl m key
  · intro key
    rw [lastWritten?_append]
    exact hs.transforms key
  · intro key
    rw [lastWritten?_append]
    exact hs.failing key

theorem Recalls.setTransform (hs : s.Recalls history) (key : String) (t : Transform) :
    (s.setTransform key t).Recalls (history ++ [.setTransform key t]) := by
  have hinserted : inserted (history ++ [.setTransform key t]) = inserted history :=
    (inserted_append history (.setTransform key t)).trans (List.append_nil _)
  constructor
  · exact hs.modules.trans hinserted.symm
  · exact hinserted ▸ hs.byId
  · exact hinserted ▸ hs.byUrl
  · exact getElem?_insert_eq_lastWritten? hs.transforms fun _ => rfl
  · intro other
    rw [lastWritten?_append]
    exact hs.failing other

theorem Recalls.failTransform (hs : s.Recalls history) (key reason : String) :
    (s.failTransform key reason).Recalls (history ++ [.failTransform key reason]) := by
  have hinserted : inserted (history ++ [.failTransform key reason]) = inserted history :=
    (inserted_append history (.failTransform key reason)).trans (List.append_nil _)
  constructor
  · exact hs.modules.trans hinserted.symm
  · exact hinserted ▸ hs.byId
  · exact hinserted ▸ hs.byUrl
  · intro other
    rw [lastWritten?_append]
    exact hs.transforms other
  · exact getElem?_insert_eq_lastWritten? hs.failing fun _ => rfl

theorem Recalls.perform (hs : s.Recalls history) (op : Operation) :
    (s.perform op).Recalls (history ++ [op]) := by
  cases op with
  | insert m => exact hs.insert m
  | setTransform key t => exact hs.setTransform key t
  | failTransform key reason => exact hs.failTransform key reason

/-! ## Whole histories -/

theorem ofHistory_recalls (history : List Operation) : (ofHistory history).Recalls history := by
  induction history using List.reverseRecOn with
  | nil => exact empty_recalls
  | append_singleton front op ih =>
      rw [ofHistory, List.foldl_append]
      exact ih.perform op

/-- A store answers from its history alone, whatever the order of the operations. -/
theorem answer_ofHistory (history : List Operation) (root : String)
    (files : String → Except RegistryError String) (past : List Query) :
    let s := ofHistory history
    let r := s.registry root files
    r.answer past .modules = some (inserted history) ∧
      s.size = (inserted history).length ∧
      (s.isEmpty = true ↔ inserted history = []) ∧
      (∀ key, r.answer past (.byId key) =
        some (.ok (lastNamed? (·.id) key (inserted history)))) ∧
      (∀ key, r.answer past (.byUrl key) =
        some (.ok (lastNamed? (fun m => some m.url) key (inserted history)))) ∧
      ∀ key, r.answer past (.transform key) = some
        (match lastWritten? (Operation.reason? key) history with
        | some reason => .error (.transform key reason)
        | none => .ok (lastWritten? (Operation.transform? key) history)) := by
  intro s r
  have hs : s.Recalls history := ofHistory_recalls history
  refine ⟨congrArg some hs.modules, congrArg List.length hs.modules, ?_, ?_, ?_, ?_⟩
  · rw [isEmpty, hs.modules, List.isEmpty_iff]
  · intro key
    exact congrArg (some ∘ Except.ok) (hs.byId key)
  · intro key
    exact congrArg (some ∘ Except.ok) (hs.byUrl key)
  · intro key
    rw [← hs.failing key, ← hs.transforms key]
    rfl

end ErrorOrigin.ModuleStore
