import ErrorOrigin.Address.Reader
import ErrorOrigin.Json.Basic
import ErrorOrigin.Registry.Inquiry
import ErrorOrigin.SourceMap.Trace

/-!
# Locating sources

Where a position in the compiled text of a module comes from.  The module's cached map is used, or
that of one fresh transform; without a map, also because the transform fails, without a mapping
there, or at an unknown position the answer is the position itself.  A source of a module with a web
address is a reference from that address.
-/

namespace ErrorOrigin

namespace ServedModule

/-- The cached map, else the one of a fresh transform. -/
def map? (m : ServedModule) : Inquiry (Option SourceMap) :=
  match m.cachedMap? with
  | some map => pure (some map)
  | none =>
    match m.transformKey? with
    | some key => do
      match ← Inquiry.query (.transform key) with
      | .ok found => pure (found.bind (·.map))
      | .error _ => pure none
    | none => pure none

/-- The source as it is to be fetched when the module was fetched by this path. -/
def sourceFrom [DomainForms] (path source : String) : String :=
  if Address.claimsWeb path then (Address.web? path).elim source (·.resolve source) else source

/-- The position a map gives for a compiled one, if it has one. -/
def mappedPosition? [DomainForms] (map : SourceMap) (p : Position) : Option Position := do
  let trace ← map.trace.toOption
  let origin ← trace.origin? p.line (p.column - 1)
  pure ⟨sourceFrom p.file origin.source, origin.line, min (origin.column + 1) Position.greatest⟩

/-- Where a compiled position was authored. -/
def locate [DomainForms] (m : ServedModule) (p : Position) : Inquiry Position :=
  if p.line = 0 ∨ p.column = 0 then pure p
  else do
    match ← m.map? with
    | some map => pure ((mappedPosition? map p).getD p)
    | none => pure p

end ServedModule

def Position.toJson (p : Position) : Json :=
  .object
    [("originalFilePath", .string p.file), ("originalFileLine", .nat p.line),
      ("originalFileColumn", .nat p.column)]

end ErrorOrigin
