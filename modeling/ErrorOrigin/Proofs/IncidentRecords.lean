import ErrorOrigin.Proofs.IncidentFields

/-!
# Records of incidents in JSON

No value is refused, however the shapes are tried: a part of a list and an error in an object is
always one or the other of them.  So which shape an incident has is decided by the value itself and
the array under its key `errors`, and neither the other members nor anything inside of the parts
makes it another one.  Every part then stands for a record of its own.
-/

namespace ErrorOrigin

open Json

namespace Incident

/-- The errors of an object, if it has an array of them. -/
def errors? (members : List (String × Json)) : Option (List Json) :=
  (lookup? "errors" members).bind items?

theorem errors?_eq_some_iff {members : List (String × Json)} {items : List Json} :
    errors? members = some items ↔ lookup? "errors" members = some (.array items) := by
  rw [errors?, Option.bind_eq_some_iff]
  constructor
  · rintro ⟨j, hj, hitems⟩
    cases j <;> simp_all [items?]
  · intro hj
    exact ⟨.array items, hj, rfl⟩

theorem errors?_eq_none_iff {members : List (String × Json)} :
    errors? members = none ↔ ∀ items, lookup? "errors" members ≠ some (.array items) := by
  simp only [ne_eq, ← errors?_eq_some_iff, ← Option.eq_none_iff_forall_ne_some]

/-- The values that get a record each: the items of an array and the errors of an object. -/
def parts : Json → List Json
  | .array items => items
  | .object members => (errors? members).getD []
  | _ => []

/-! ## The shapes in their order -/

/-- An error with causes, each of which is to be read. -/
def aggregate? (read? : Json → Option Incident) : Json → Option Incident
  | .object members => do
    let fields ← ThrownError.Fields.ofJson? (.object members)
    pure (.aggregate fields.toThrown (← (← errors? members).mapM read?))
  | _ => none

theorem lookup?_cons (key name : String) (j : Json) (rest : List (String × Json)) :
    lookup? key ((name, j) :: rest) =
      (lookup? key rest).or (if key = name then some j else none) := by
  rw [lookup?, lookup?, List.reverse_cons, List.lookup_append, List.lookup_cons, List.lookup_nil]
  by_cases hkey : key = name
  · rw [beq_iff_eq.mpr hkey, if_pos hkey]
  · rw [beq_eq_false_iff_ne.mpr hkey, if_neg hkey]

theorem readAll?_eq_mapM (items : List Json) : readAll? items = items.mapM read? := by
  induction items with
  | nil => rfl
  | cons j rest ih => rw [readAll?, List.mapM_cons, ih]

theorem readItems?_eq_bind (j : Json) : readItems? j = j.items?.bind (·.mapM read?) := by
  cases j with
  | array items => rw [readItems?, readAll?_eq_mapM]; rfl
  | _ => rfl

theorem readErrors?_eq_lookup? (members : List (String × Json)) :
    readErrors? members = (lookup? "errors" members).map readItems? := by
  induction members with
  | nil => rfl
  | cons member rest ih =>
      obtain ⟨key, j⟩ := member
      rw [readErrors?, ih, lookup?_cons]
      cases hrest : lookup? "errors" rest with
      | some found => rfl
      | none =>
          by_cases hkey : key = "errors"
          · simp [hkey]
          · simp [hkey, Ne.symm hkey]

theorem join_readErrors? (members : List (String × Json)) :
    (readErrors? members).join = (errors? members).bind (·.mapM read?) := by
  rw [readErrors?_eq_lookup?, errors?]
  cases lookup? "errors" members with
  | none => rfl
  | some j => exact readItems?_eq_bind j

theorem read?_eq (j : Json) :
    read? j = (diagnostics? j <|> aggregate? read? j <|> thrown? j <|> text? j <|>
      some (other j)) := by
  have haggregate (members : List (String × Json)) :
      (do
        let fields ← ThrownError.Fields.ofJson? (.object members)
        pure (Incident.aggregate fields.toThrown (← (readErrors? members).join))) =
      aggregate? read? (.object members) := by
    rw [aggregate?, join_readErrors?]
    cases errors? members <;> rfl
  cases j with
  | object members => rw [read?, ← haggregate]
  | _ => rfl

theorem read?_eq_some (j : Json) : read? j = some (ofJson j) := by
  have hread : ∃ i, read? j = some i := by
    rw [read?_eq]
    cases diagnostics? j <;> cases aggregate? read? j <;> cases thrown? j <;> cases text? j <;>
      exact ⟨_, rfl⟩
  obtain ⟨i, hi⟩ := hread
  rw [ofJson, hi, Option.getD_some]

theorem ofJson_array (items : List Json) :
    ofJson (.array items) = .diagnostics (items.map Diagnostic.ofJson) := by
  have hparts : items.mapM Diagnostic.part? = some (items.map Diagnostic.ofJson) := by
    rw [funext Diagnostic.part?_eq]
    exact List.mapM_pure
  have hlist : diagnostics? (.array items) = some (.diagnostics (items.map Diagnostic.ofJson)) := by
    simp [diagnostics?, items?, hparts]
  rw [ofJson, read?_eq, hlist]
  rfl

theorem ofJson_of_errors {members : List (String × Json)} {items : List Json}
    {fields : ThrownError.Fields}
    (hfields : ThrownError.Fields.ofJson? (.object members) = some fields)
    (herrors : errors? members = some items) :
    ofJson (.object members) = .aggregate fields.toThrown (items.map ofJson) := by
  have hcauses : items.mapM read? = some (items.map ofJson) := by
    rw [funext read?_eq_some]
    exact List.mapM_pure
  have haggregate : aggregate? read? (.object members) =
      some (.aggregate fields.toThrown (items.map ofJson)) := by
    simp [aggregate?, hfields, herrors, hcauses]
  rw [ofJson, read?_eq, haggregate]
  rfl

theorem exists_of_errors {members : List (String × Json)} {items : List Json}
    (herrors : errors? members = some items) :
    ∃ error, ThrownError.Throws (.object members) error ∧
      ofJson (.object members) = .aggregate error (items.map ofJson) :=
  ⟨_, (ThrownError.Fields.toThrown_eq_iff rfl).mp rfl, ofJson_of_errors rfl herrors⟩

theorem ofJson_of_no_errors {members : List (String × Json)} {fields : ThrownError.Fields}
    (hfields : ThrownError.Fields.ofJson? (.object members) = some fields)
    (herrors : errors? members = none) :
    ofJson (.object members) = if fields.isError then .single fields.toThrown else .unknown "" := by
  have haggregate : aggregate? read? (.object members) = none := by
    rw [aggregate?, hfields, herrors]
    rfl
  have hthrown : thrown? (.object members) =
      some (if fields.isError then .single fields.toThrown else .unknown "") := by
    rw [thrown?, hfields]
    rfl
  rw [ofJson, read?_eq, haggregate, hthrown]
  rfl

/-- What a value means as an incident. -/
inductive Means : Json → Incident → Prop where
  | diagnostics {items : List Json} {list : List Diagnostic} :
      List.Forall₂ Diagnostic.Says items list → Means (.array items) (.diagnostics list)
  | aggregate {members : List (String × Json)} {items : List Json} {error : ThrownError}
      {causes : List Incident} : lookup? "errors" members = some (.array items) →
      ThrownError.Throws (.object members) error → List.Forall₂ Means items causes →
      Means (.object members) (.aggregate error causes)
  | single {members : List (String × Json)} {error : ThrownError} :
      (∀ items, lookup? "errors" members ≠ some (.array items)) →
      (∃ s, lookup? "message" members = some (.string s)) ∨
        (∃ s, lookup? "stack" members = some (.string s)) →
      ThrownError.Throws (.object members) error → Means (.object members) (.single error)
  | silent {members : List (String × Json)} :
      (∀ items, lookup? "errors" members ≠ some (.array items)) →
      (∀ s, lookup? "message" members ≠ some (.string s)) →
      (∀ s, lookup? "stack" members ≠ some (.string s)) → Means (.object members) (.unknown "")
  | text {s : String} : Means (.string s) (.unknown s)
  | bool {b : Bool} : Means (.bool b) (.unknown (toString b))
  | number {n : Json.Number} : Means (.number n) (.unknown (String.ofList n.write))
  | null : Means .null (.unknown "")
  | meaningless : Means .meaningless (.unknown "")

theorem mem_of_lookup? {key : String} {members : List (String × Json)} {j : Json}
    (hj : lookup? key members = some j) : (key, j) ∈ members := by
  rw [lookup?, List.lookup_eq_some_iff] at hj
  obtain ⟨before, after, hmembers, -⟩ := hj
  rw [← List.mem_reverse, hmembers]
  exact List.mem_append_right before List.mem_cons_self

theorem sizeOf_lt_of_mem_errors {members : List (String × Json)} {items : List Json} {item : Json}
    (herrors : lookup? "errors" members = some (.array items)) (hitem : item ∈ items) :
    sizeOf item < sizeOf (Json.object members) := by
  have hmember := List.sizeOf_lt_of_mem (mem_of_lookup? herrors)
  have hinside := List.sizeOf_lt_of_mem hitem
  simp only [Prod.mk.sizeOf_spec, array.sizeOf_spec, object.sizeOf_spec] at *
  omega

theorem forall₂_iff_map_eq {f : α → β} {means : α → β → Prop} {as : List α} {bs : List β}
    (hmeans : ∀ a ∈ as, ∀ b, f a = b ↔ means a b) :
    List.Forall₂ means as bs ↔ as.map f = bs := by
  have hmap : as.map f = bs ↔ List.Forall₂ (fun a b => f a = b) as bs := by
    rw [← List.forall₂_map_left_iff, List.forall₂_eq_eq_eq]
  rw [hmap]
  constructor
  · intro hall
    exact ((List.forall₂_and_left _ _).mpr ⟨hmeans, hall⟩).imp fun _ _ h => (h.1 _).mpr h.2
  · intro hall
    exact ((List.forall₂_and_left _ _).mpr ⟨hmeans, hall⟩).imp fun _ _ h => (h.1 _).mp h.2

theorem ofJson_eq_iff (j : Json) (i : Incident) : ofJson j = i ↔ Means j i := by
  induction hsize : sizeOf j using Nat.strong_induction_on generalizing j i with
  | _ size ih =>
  subst hsize
  cases j with
  | array items =>
      have hlist (list : List Diagnostic) :
          List.Forall₂ Diagnostic.Says items list ↔ items.map Diagnostic.ofJson = list :=
        forall₂_iff_map_eq fun _ _ _ => Diagnostic.ofJson_eq_iff
      rw [ofJson_array]
      constructor
      · rintro rfl
        exact .diagnostics ((hlist _).mpr rfl)
      · rintro ⟨hall⟩
        rw [(hlist _).mp hall]
  | object members =>
      obtain ⟨fields, hfields⟩ : ∃ fields,
          ThrownError.Fields.ofJson? (.object members) = some fields := ⟨_, rfl⟩
      have hthrows (error : ThrownError) :=
        ThrownError.Fields.toThrown_eq_iff (e := error) hfields
      cases herrors : errors? members with
      | some items =>
          have hitems := errors?_eq_some_iff.mp herrors
          have hcauses (causes : List Incident) :
              List.Forall₂ Means items causes ↔ items.map ofJson = causes :=
            forall₂_iff_map_eq fun item hitem i =>
              ih _ (sizeOf_lt_of_mem_errors hitems hitem) item i rfl
          rw [ofJson_of_errors hfields herrors]
          constructor
          · rintro rfl
            exact .aggregate hitems ((hthrows _).mp rfl) ((hcauses _).mpr rfl)
          · intro hmeans
            cases hmeans with
            | aggregate hothers herror hall =>
                obtain rfl := array.inj (Option.some.inj (hitems.symm.trans hothers))
                rw [(hthrows _).mpr herror, (hcauses _).mp hall]
            | single hnone => exact absurd hitems (hnone items)
            | silent hnone => exact absurd hitems (hnone items)
      | none =>
          have hnone := errors?_eq_none_iff.mp herrors
          have hthrown := ThrownError.Fields.isError_iff hfields
          simp only [hasField_object_iff] at hthrown
          rw [ofJson_of_no_errors hfields herrors]
          constructor
          · rintro rfl
            split
            · rename_i herror
              exact .single hnone (hthrown.mp herror) ((hthrows _).mp rfl)
            · rename_i herror
              simp only [hthrown, not_or, not_exists] at herror
              exact .silent hnone herror.1 herror.2
          · intro hmeans
            cases hmeans with
            | aggregate hothers => exact absurd hothers (hnone _)
            | single _ herror hall => rw [if_pos (hthrown.mpr herror), (hthrows _).mpr hall]
            | silent _ hmessage hstack =>
                have herror : ¬fields.isError := by
                  rw [hthrown, not_or, not_exists, not_exists]
                  exact ⟨hmessage, hstack⟩
                rw [if_neg herror]
  | string s => exact ⟨fun h => h ▸ .text, fun (.text) => rfl⟩
  | number n => exact ⟨fun h => h ▸ .number, fun (.number) => rfl⟩
  | bool b => cases b <;> exact ⟨fun h => h ▸ .bool, fun (.bool) => rfl⟩
  | null => exact ⟨fun h => h ▸ .null, fun (.null) => rfl⟩
  | meaningless => exact ⟨fun h => h ▸ .meaningless, fun (.meaningless) => rfl⟩

/-! ## The records of a shape -/

theorem records_diagnostics {list : List Diagnostic} (hlist : list ≠ []) :
    (diagnostics list).records = list.map .ofDiagnostic := by
  cases list with
  | nil => exact absurd rfl hlist
  | cons d rest => rfl

theorem records_aggregate {error : ThrownError} {causes : List Incident} (hcauses : causes ≠ []) :
    (aggregate error causes).records = causes.map record := by
  cases causes with
  | nil => exact absurd rfl hcauses
  | cons cause rest => rfl

theorem records_of_no_errors {members : List (String × Json)} (herrors : errors? members = none) :
    (ofJson (.object members)).records = [(ofJson (.object members)).record] := by
  rw [ofJson_of_no_errors rfl herrors]
  split <;> rfl

/-- The record of a part of a value: items of an array are diagnostics, errors are incidents. -/
def partRecord : Json → Json → ErrorRecord
  | .array _, part => .ofDiagnostic (.ofJson part)
  | _, part => (ofJson part).record

theorem records_of_parts {j : Json} (hparts : parts j ≠ []) :
    (ofJson j).records = (parts j).map (partRecord j) := by
  cases j with
  | array items =>
      have hlist : items.map Diagnostic.ofJson ≠ [] := by simpa [parts] using hparts
      rw [ofJson_array, records_diagnostics hlist, List.map_map]
      rfl
  | object members =>
      cases herrors : errors? members with
      | none => simp [parts, herrors] at hparts
      | some items =>
          obtain ⟨error, -, hread⟩ := exists_of_errors herrors
          have hcauses : items.map ofJson ≠ [] := by simpa [parts, herrors] using hparts
          rw [hread, records_aggregate hcauses, List.map_map, parts, herrors]
          rfl
  | _ => exact absurd rfl hparts

theorem records_of_no_parts {j : Json} (hparts : parts j = []) :
    (ofJson j).records = [(ofJson j).record] := by
  cases j with
  | array items =>
      obtain rfl : items = [] := hparts
      rfl
  | object members =>
      cases herrors : errors? members with
      | none => exact records_of_no_errors herrors
      | some items =>
          obtain rfl : items = [] := by simpa [parts, herrors] using hparts
          obtain ⟨error, -, hread⟩ := exists_of_errors herrors
          rw [hread]
          rfl
  | bool b => cases b <;> rfl
  | _ => rfl

/-- The error that a path of numbers leads to. -/
def errorAt? : Json → List Nat → Option Json
  | j, [] => some j
  | .object members, n :: path => do errorAt? (← (← errors? members)[n]?) path
  | _, _ :: _ => none

def causeAt? : Incident → List Nat → Option Incident
  | i, [] => some i
  | .aggregate _ causes, n :: path => do causeAt? (← causes[n]?) path
  | _, _ :: _ => none

/-- At any depth, a cause is the incident of the error in its place. -/
theorem causeAt?_ofJson (j : Json) (path : List Nat) :
    (ofJson j).causeAt? path = (errorAt? j path).map ofJson := by
  induction path generalizing j with
  | nil => simp [causeAt?, errorAt?]
  | cons n path ih =>
      cases j with
      | object members =>
          cases herrors : errors? members with
          | none =>
              rw [ofJson_of_no_errors rfl herrors]
              split <;> simp [causeAt?, errorAt?, herrors]
          | some items =>
              obtain ⟨error, -, hread⟩ := exists_of_errors herrors
              rw [hread]
              cases hitem : items[n]? <;> simp [causeAt?, errorAt?, herrors, hitem, ih]
      | array items => simp [ofJson_array, causeAt?, errorAt?]
      | bool b => cases b <;> rfl
      | _ => rfl

theorem getElem?_records {j part : Json} {k : Nat} (hpart : (parts j)[k]? = some part) :
    (ofJson j).records[k]? = some (partRecord j part) := by
  have hparts : parts j ≠ [] := List.ne_nil_of_mem (List.mem_of_getElem? hpart)
  rw [records_of_parts hparts, List.getElem?_map, hpart, Option.map_some]

/-- No value is refused, and each says what its fields do.  The parts of a value get a record each,
in their order and from themselves alone; a value without parts gets one.  Errors become the causes
of an aggregate, at every depth. -/
theorem records_ofJson :
    (∀ items, items ≠ [] →
      (ofJson (.array items)).records = items.map fun item => .ofDiagnostic (.ofJson item)) ∧
    (∀ members items, lookup? "errors" members = some (.array items) →
      (∃ error, ThrownError.Throws (.object members) error ∧
        ofJson (.object members) = .aggregate error (items.map ofJson)) ∧
      (items ≠ [] →
        (ofJson (.object members)).records = items.map fun item => (ofJson item).record)) ∧
    (∀ j, (∀ items, j = .array items → items = []) →
      (∀ members items, j = .object members →
        lookup? "errors" members = some (.array items) → items = []) →
      (ofJson j).records = [(ofJson j).record]) ∧
    (∀ j path, (ofJson j).causeAt? path = (errorAt? j path).map ofJson) ∧
    (∀ (items others : List Json) (k : Nat) part, items[k]? = some part → others[k]? = some part →
      (ofJson (.array items)).records[k]? = (ofJson (.array others)).records[k]?) ∧
    (∀ members fields items others (k : Nat) part,
      lookup? "errors" members = some (.array items) →
      lookup? "errors" fields = some (.array others) →
      items[k]? = some part → others[k]? = some part →
      (ofJson (.object members)).records[k]? = (ofJson (.object fields)).records[k]?) ∧
    (∀ j d, Diagnostic.ofJson j = d ↔ Diagnostic.Says j d) ∧
    (∀ j i, ofJson j = i ↔ Means j i) ∧
    (∀ j, read? j = some (ofJson j)) := by
  have hparts {members items} (herrors : lookup? "errors" members = some (.array items)) :
      parts (.object members) = items := by
    rw [parts, errors?_eq_some_iff.mpr herrors, Option.getD_some]
  refine ⟨fun items => records_of_parts (j := .array items), ?_, ?_, causeAt?_ofJson, ?_, ?_,
    fun _ _ => Diagnostic.ofJson_eq_iff, ofJson_eq_iff, read?_eq_some⟩
  · intro members items herrors
    refine ⟨exists_of_errors (errors?_eq_some_iff.mpr herrors), fun hitems => ?_⟩
    rw [records_of_parts (by rwa [hparts herrors]), hparts herrors]
    rfl
  · intro j harray hobject
    apply records_of_no_parts
    cases j with
    | array items => exact harray items rfl
    | object members =>
        cases herrors : errors? members with
        | none => rw [parts, herrors, Option.getD_none]
        | some items =>
            rw [parts, herrors, Option.getD_some]
            exact hobject members items rfl (errors?_eq_some_iff.mp herrors)
    | _ => rfl
  · intro items others k part hitem hother
    rw [getElem?_records (j := .array items) hitem, getElem?_records (j := .array others) hother]
    rfl
  · intro members fields items others k part herrors hfields hitem hother
    rw [← hparts herrors] at hitem
    rw [← hparts hfields] at hother
    rw [getElem?_records hitem, getElem?_records hother]
    rfl

/-- Fields of the wrong type, positional parts and too many of them, in a list and in an object. -/
theorem records_ofJson_mistyped :
    (ofJson (.array
      [.number (.int 5),
        .object [("text", .string "x"), ("message", .number (.int 1))],
        .array [.string "m", .null,
          .object [("file", .string "f"), ("line", .string "3"), ("column", .number (.int 7))]],
        .array [.string "m", .null, .null, .null]])).records =
      [⟨"Error", "", none⟩, ⟨"Error", "x", none⟩, ⟨"Error", "m", some "Error: m\n    at f:0:7"⟩,
        ⟨"Error", "", none⟩] ∧
    (ofJson (.object
      [("message", .bool true),
        ("errors", .array
          [.number (.int 5),
            .object [("name", .null), ("message", .array []), ("stack", .string "s")],
            .object [("message", .string "m"), ("errors", .array [.null])],
            .string "t"])])).records =
      [⟨"Error", "5", none⟩, ⟨"Error", "", some "s"⟩, ⟨"Error", "m", none⟩, ⟨"Error", "t", none⟩] :=
  ⟨(records_ofJson.1 _ (by simp)).trans (by decide +kernel),
    ((records_ofJson.2.1 _ _ rfl).2 (by simp)).trans (by decide +kernel)⟩

end Incident

end ErrorOrigin
