import ErrorOrigin.Incident.Json
import Mathlib.Tactic

/-!
# Fields of incidents

What is read of a diagnostic and of a thrown error, told by the fields that the value has.  A field
of the wrong type is as good as missing, and a value that has no fields says nothing.
-/

namespace ErrorOrigin

open Json

/-- What is given, else what stands for it. -/
inductive GivenOr (given fallback : α → Prop) : α → Prop where
  | given {a : α} : given a → GivenOr given fallback a
  | missing {a : α} : (∀ b, ¬ given b) → fallback a → GivenOr given fallback a

theorem givenOr_iff {given fallback : α → Prop} {o : Option α} {a : α}
    (hgiven : ∀ b, given b ↔ o = some b) :
    GivenOr given fallback a ↔ o = some a ∨ o = none ∧ fallback a := by
  have hmissing : (∀ b, ¬ given b) ↔ o = none := by
    simp only [hgiven, Option.eq_none_iff_forall_ne_some, ne_eq]
  constructor
  · rintro (hgive | ⟨hmiss, hfallback⟩)
    · exact .inl ((hgiven a).mp hgive)
    · exact .inr ⟨hmissing.mp hmiss, hfallback⟩
  · rintro (hsome | ⟨hnone, hfallback⟩)
    · exact .given ((hgiven a).mpr hsome)
    · exact .missing (hmissing.mpr hnone) hfallback

theorem givenOr_eq_iff {given : α → Prop} {o : Option α} {a default : α}
    (hgiven : ∀ b, given b ↔ o = some b) :
    GivenOr given (· = default) a ↔ o.getD default = a := by
  rw [givenOr_iff hgiven]
  cases o <;> simp [eq_comm]

theorem givenOr_givenOr_iff {first second : α → Prop} {o p : Option α} {a default : α}
    (hfirst : ∀ b, first b ↔ o = some b) (hsecond : ∀ b, second b ↔ p = some b) :
    GivenOr first (GivenOr second (· = default)) a ↔ (o.or p).getD default = a := by
  rw [givenOr_iff hfirst, givenOr_eq_iff hsecond]
  cases o <;> simp

namespace Json

/-- The value of a field in a record of this size: the last one under its name in an object, the one
in its place in an array that is not too long. -/
inductive HasField (size : Nat) : (j : Json) → (place : Nat) → (name : String) → Json → Prop where
  | named {members : List (String × Json)} {place : Nat} {name : String} {value : Json} :
      lookup? name members = some value → HasField size (.object members) place name value
  | placed {parts : List Json} {place : Nat} {name : String} {value : Json} :
      parts.length ≤ size → parts[place]? = some value →
      HasField size (.array parts) place name value

theorem hasField_object_iff {size place : Nat} {name : String} {members : List (String × Json)}
    {value : Json} :
    HasField size (.object members) place name value ↔ lookup? name members = some value :=
  ⟨fun (.named hvalue) => hvalue, .named⟩

theorem hasField_iff {size place : Nat} {name : String} {j value : Json} :
    HasField size j place name value ↔ (j.fields? size).bind (· place name) = some value := by
  cases j with
  | object members => exact hasField_object_iff
  | array parts =>
      rw [fields?]
      constructor
      · rintro (_ | ⟨hlength, hvalue⟩)
        rw [if_neg (by omega)]
        exact hvalue
      · intro hvalue
        split at hvalue
        · cases hvalue
        · exact .placed (by omega) hvalue
  | _ => exact ⟨nofun, nofun⟩

theorem int64?_eq_some_iff {j : Json} {n : Int} :
    int64? j = some n ↔ j = .number (.int n) ∧ -2 ^ 63 ≤ n ∧ n < 2 ^ 63 := by
  unfold int64? int?
  split
  · simp only [Option.ite_none_right_eq_some, Option.some.injEq, number.injEq, Number.int.injEq]
    omega
  · simp_all

theorem str?_eq_some_iff {j : Json} {s : String} : str? j = some s ↔ j = .string s := by
  cases j <;> simp [str?]

theorem hasField_and_iff {size place : Nat} {name : String} {j : Json} {read? : Json → Option α}
    {a : α} : (∃ value, HasField size j place name value ∧ read? value = some a) ↔
      lenient read? ((j.fields? size).bind (· place name)) = some a := by
  simp only [hasField_iff, lenient, Option.bind_eq_some_iff]

theorem hasField_string_iff {size place : Nat} {name s : String} {j : Json} :
    HasField size j place name (.string s) ↔
      lenient str? ((j.fields? size).bind (· place name)) = some s := by
  rw [← hasField_and_iff]
  simp [str?_eq_some_iff]

theorem hasField_int_iff {size place : Nat} {name : String} {n : Int} {j : Json} :
    (HasField size j place name (.number (.int n)) ∧ -2 ^ 63 ≤ n ∧ n < 2 ^ 63) ↔
      lenient int64? ((j.fields? size).bind (· place name)) = some n := by
  rw [← hasField_and_iff]
  simp [int64?_eq_some_iff]

end Json

namespace Diagnostic

/-- A coordinate is an integer of 64 bits; anything else is zero. -/
def Coordinate (j : Json) (place : Nat) (name : String) : Int → Prop :=
  GivenOr (fun n => HasField 3 j place name (.number (.int n)) ∧ -2 ^ 63 ≤ n ∧ n < 2 ^ 63) (· = 0)

structure Points (j : Json) (p : Place) : Prop where
  file : HasField 3 j 0 "file" (.string p.file)
  line : Coordinate j 1 "line" p.line
  column : Coordinate j 2 "column" p.column

/-- The value says this as a diagnostic. -/
structure Says (j : Json) (d : Diagnostic) : Prop where
  message : GivenOr (fun s => HasField 3 j 0 "message" (.string s))
    (GivenOr (fun s => HasField 3 j 1 "text" (.string s)) (· = "")) d.message
  place : ∀ p, d.place = some p ↔ ∃ value, HasField 3 j 2 "location" value ∧ Points value p

def ofJson (j : Json) : Diagnostic :=
  (ofJson? j).getD .empty

theorem place_ofJson?_eq_some_iff {j : Json} {p : Place} :
    Place.ofJson? j = some p ↔ Points j p := by
  have hpoints : Points j p ↔
      lenient str? ((j.fields? 3).bind (· 0 "file")) = some p.file ∧
      (lenient int64? ((j.fields? 3).bind (· 1 "line"))).getD 0 = p.line ∧
      (lenient int64? ((j.fields? 3).bind (· 2 "column"))).getD 0 = p.column := by
    rw [← hasField_string_iff, ← givenOr_eq_iff fun _ => hasField_int_iff,
      ← givenOr_eq_iff fun _ => hasField_int_iff]
    exact ⟨fun ⟨hfile, hline, hcolumn⟩ => ⟨hfile, hline, hcolumn⟩,
      fun ⟨hfile, hline, hcolumn⟩ => ⟨hfile, hline, hcolumn⟩⟩
  rw [hpoints, Place.ofJson?]
  obtain ⟨file, line, column⟩ := p
  cases j.fields? 3 with
  | none => simp [lenient]
  | some field =>
      cases hfile : field 0 "file" with
      | none => simp [hfile, lenient]
      | some value => cases htext : value.str? <;> simp [hfile, htext, lenient]

theorem ofJson_eq_iff {j : Json} {d : Diagnostic} : ofJson j = d ↔ Says j d := by
  have hmessage : (ofJson j).message =
      ((lenient str? ((j.fields? 3).bind (· 0 "message"))).or
        (lenient str? ((j.fields? 3).bind (· 1 "text")))).getD "" := by
    rw [ofJson, ofJson?]
    cases j.fields? 3 <;> rfl
  have hplace : (ofJson j).place =
      lenient Place.ofJson? ((j.fields? 3).bind (· 2 "location")) := by
    rw [ofJson, ofJson?]
    cases j.fields? 3 <;> rfl
  have hlocated (p : Place) : (ofJson j).place = some p ↔
      ∃ value, HasField 3 j 2 "location" value ∧ Points value p := by
    rw [hplace, ← hasField_and_iff]
    simp only [place_ofJson?_eq_some_iff]
  have htext (s : String) : GivenOr (fun s => HasField 3 j 0 "message" (.string s))
      (GivenOr (fun s => HasField 3 j 1 "text" (.string s)) (· = "")) s ↔
        (ofJson j).message = s := by
    rw [hmessage]
    exact givenOr_givenOr_iff (fun _ => hasField_string_iff) fun _ => hasField_string_iff
  constructor
  · rintro rfl
    exact ⟨(htext _).mpr rfl, hlocated⟩
  · rintro ⟨hsaid, hplaced⟩
    have hsame : (ofJson j).message = d.message := (htext _).mp hsaid
    have hwhere : (ofJson j).place = d.place :=
      Option.ext fun p => (hlocated p).trans (hplaced p).symm
    cases hread : ofJson j
    rw [hread] at hsame hwhere
    rw [Diagnostic.mk.injEq]
    exact ⟨hsame, hwhere⟩

theorem part?_eq (j : Json) : part? j = some (ofJson j) := by
  rw [part?, ofJson]
  cases ofJson? j <;> rfl

end Diagnostic

namespace ThrownError

structure Throws (j : Json) (e : ThrownError) : Prop where
  name : GivenOr (fun s => HasField 3 j 0 "name" (.string s)) (· = defaultErrorName) e.name
  message : GivenOr (fun s => HasField 3 j 1 "message" (.string s)) (· = "") e.message
  stack : ∀ s, e.stack = some s ↔ HasField 3 j 2 "stack" (.string s)

theorem Fields.hasField_iff {j : Json} {fields : Fields}
    (hfields : Fields.ofJson? j = some fields) :
    (∀ s, HasField 3 j 0 "name" (.string s) ↔ fields.name = some s) ∧
    (∀ s, HasField 3 j 1 "message" (.string s) ↔ fields.message = some s) ∧
    (∀ s, HasField 3 j 2 "stack" (.string s) ↔ fields.stack = some s) := by
  obtain ⟨field, hfield, hread⟩ := Option.bind_eq_some_iff.mp hfields
  obtain rfl := Option.some.inj hread
  simp only [hasField_string_iff, hfield, Option.bind_some, implies_true, and_self]

theorem Fields.toThrown_eq_iff {j : Json} {fields : Fields} {e : ThrownError}
    (hfields : Fields.ofJson? j = some fields) : fields.toThrown = e ↔ Throws j e := by
  obtain ⟨hname, hmessage, hstack⟩ := Fields.hasField_iff hfields
  constructor
  · rintro rfl
    exact ⟨(givenOr_eq_iff hname).mpr rfl, (givenOr_eq_iff hmessage).mpr rfl,
      fun s => (hstack s).symm⟩
  · intro hthrows
    have hsame : fields.stack = e.stack :=
      Option.ext fun s => (hstack s).symm.trans (hthrows.stack s).symm
    rw [toThrown, (givenOr_eq_iff hname).mp hthrows.name,
      (givenOr_eq_iff hmessage).mp hthrows.message, hsame]

theorem Fields.isError_iff {j : Json} {fields : Fields} (hfields : Fields.ofJson? j = some fields) :
    fields.isError ↔ (∃ s, HasField 3 j 1 "message" (.string s)) ∨
      ∃ s, HasField 3 j 2 "stack" (.string s) := by
  obtain ⟨-, hmessage, hstack⟩ := Fields.hasField_iff hfields
  simp only [hmessage, hstack, isError, Bool.or_eq_true, Option.isSome_iff_exists]

end ThrownError

end ErrorOrigin
