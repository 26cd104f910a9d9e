import ErrorOrigin.Address.Reader

/-!
# Candidate keys

A served module is known under many spellings of its path: with its query and without, with a
leading slash and without, escaped, mounted below the place where the server puts files from
outside the project, or as a full address.  The candidates of an identifier are all of these, the
most specific first, none twice and none empty.
-/

namespace ErrorOrigin

open Text

structure CandidateSet where
  keys : List String
  nodup : keys.Nodup
  empty_notMem : "" ∉ keys

namespace CandidateSet

def empty : CandidateSet := ⟨[], List.nodup_nil, by simp⟩

/-- Add a key at the end, unless it is empty or there already. -/
def push (s : CandidateSet) (key : String) : CandidateSet :=
  if h : key = "" ∨ key ∈ s.keys then s
  else
    { keys := s.keys ++ [key]
      nodup := by
        rw [List.nodup_append]
        refine ⟨s.nodup, by simp, ?_⟩
        intro a ha b hb hab
        rw [List.mem_singleton] at hb
        exact h (.inr (hb ▸ hab ▸ ha))
      empty_notMem := by
        have := s.empty_notMem
        simp only [List.mem_append, List.mem_singleton]
        rintro (hs | hs)
        · exact this hs
        · exact h (.inl hs.symm) }

def ofForms (forms : List String) : CandidateSet :=
  forms.foldl push empty

instance : Membership String CandidateSet where
  mem s key := key ∈ s.keys

instance (key : String) (s : CandidateSet) : Decidable (key ∈ s) :=
  inferInstanceAs (Decidable (key ∈ s.keys))

theorem mem_keys {s : CandidateSet} {key : String} : key ∈ s.keys ↔ key ∈ s := Iff.rfl

theorem mem_push {s : CandidateSet} {key k : String} :
    k ∈ s.push key ↔ k ∈ s ∨ (k = key ∧ key ≠ "") := by
  unfold push
  split <;> rename_i h
  · constructor
    · exact .inl
    · rintro (hk | ⟨rfl, hne⟩)
      · exact hk
      · exact h.resolve_left hne
  · simp only [← mem_keys, List.mem_append, List.mem_singleton]
    constructor
    · rintro (hk | rfl)
      · exact .inl hk
      · exact .inr ⟨rfl, fun e => h (.inl e)⟩
    · rintro (hk | ⟨rfl, _⟩)
      · exact .inl hk
      · exact .inr rfl

def withoutSlash (path : String) : String :=
  match path.toList with
  | '/' :: rest => String.ofList rest
  | _ => path

/-- What is mounted, if the path lies below the mount point. -/
def belowMount? (mount path : String) : Option String := do
  if mount = "" then none
  else
    let rest ← dropStart? mount.toList path.toList
    if rest.head? = some '/' then pure (String.ofList rest) else none

/-- The spellings of a web address. -/
def webForms (mount raw : String) (a : Address) : List String :=
  let full := a.pathAndSearch
  let path := a.path
  [full, path, withoutSlash full, withoutSlash path] ++ (belowMount? mount path).toList ++
    (percentDecode? full.toList).toList ++ (percentDecode? path.toList).toList ++
    [raw, a.writeToPath]

/-- The spellings of anything else. -/
def plainForms (mount raw : String) : List String :=
  let path := String.ofList (upTo '?' raw.toList)
  [raw, withoutSlash raw, path] ++ (belowMount? mount path).toList ++
    (percentDecode? raw.toList).toList ++ (percentDecode? path.toList).toList

/-- The candidates of an identifier.  A claim to be a web address that is none has no candidates. -/
def ofIdentifier [DomainForms] (raw mount : String) : CandidateSet :=
  if Address.claimsWeb raw then
    match Address.web? raw with
    | some a => ofForms (webForms mount raw a)
    | none => empty
  else ofForms (plainForms mount raw)

end CandidateSet

end ErrorOrigin
