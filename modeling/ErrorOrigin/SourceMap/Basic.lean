import ErrorOrigin.Text.Cut

/-!
# Source maps

A source map as a compiler hands it out: the sources it was made from, perhaps with their texts,
the names that occur in them, and the mappings, still in their written form.
-/

namespace ErrorOrigin

structure SourceMap where
  version : UInt32
  file : Option String
  sourceRoot : Option String
  sources : List (Option String)
  sourcesContent : Option (List (Option String))
  names : List String
  mappings : String
deriving DecidableEq, Repr

namespace SourceMap

def empty : SourceMap := ⟨0, none, none, [], none, [], ""⟩

/-- The text of the first source, if the map has it. -/
def firstContent? (m : SourceMap) : Option String := do
  (← (← m.sourcesContent).head?)

/-- A source below the root of the map, unless it is rooted itself. -/
def underRoot (root source : String) : String :=
  if root = "" ∨ Text.occurs "://".toList source.toList ∨ source.toList.head? = some '/' then source
  else if root.toList.getLast? = some '/' then root ++ source
  else root ++ "/" ++ source

/-- The source with this index as it is to be looked for. -/
def source? (m : SourceMap) (index : Nat) : Option String :=
  (m.sources[index]?.join).map (underRoot (m.sourceRoot.getD ""))

/-- Every source as it is to be looked for, in order. -/
def resolvedSources (m : SourceMap) : List (Option String) :=
  m.sources.map fun s => s.map (underRoot (m.sourceRoot.getD ""))

theorem resolvedSources_getElem? (m : SourceMap) (index : Nat) :
    m.resolvedSources[index]?.join = m.source? index := by
  simp only [resolvedSources, source?, List.getElem?_map]
  cases m.sources[index]? with
  | none => rfl
  | some s => rfl

end SourceMap

end ErrorOrigin
