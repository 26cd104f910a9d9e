import ErrorOrigin.Proofs.JsonText
import ErrorOrigin.SourceMap.Json
import Mathlib.Tactic

/-!
# Source maps as documents

Each of the seven values is read exactly as it is written, and a missing one counts as what an empty
map has there.  So a document stands for a map if and only if its seven slots, filled up in this
way, are the values of the map.  An object without the values that are null and an array of all of
them both fill up to these, and whatever else a document holds is of no account.
-/

namespace ErrorOrigin.SourceMap

open ErrorOrigin.Json

def ofText? (text : String) : Option SourceMap :=
  (Json.read? text.toList).bind ofJson?

/-- The seven values of a map in the order of the keys; what is absent is `null`. -/
def values (m : SourceMap) : List Json :=
  [.nat m.version.toNat, ofOption .string m.file, ofOption .string m.sourceRoot,
    textsToJson m.sources, ofOption textsToJson m.sourcesContent,
    .array (m.names.map .string), .string m.mappings]

def optionalKeys : List String :=
  ["file", "sourceRoot", "sourcesContent"]

/-- The document has this value for this key. -/
def Gives : Json → String → Json → Prop
  | .object members, key, value => (key, value) ∈ members
  | .array parts, key, value => (key, value) ∈ keys.zip parts
  | _, _, _ => False

/-- The other document keeps every value but those of unknown keys and the nulls of what may be
absent, which it has no more, and where nothing was given adds only what an empty map has. -/
structure Keeps (j other : Json) : Prop where
  kept : ∀ key value, Gives j key value →
    Gives other key value ∨ key ∉ keys ∨ key ∈ optionalKeys ∧ value = .null
  added : ∀ key value, Gives other key value →
    Gives j key value ∨ (∀ given, ¬Gives j key given) ∧ Gives (toJson empty) key value
  cleared : ∀ key value, Gives other key value → key ∈ keys ∧ value ≠ .null

/-- The reader takes what the writer writes and nothing else. -/
def ReadsExactly {α : Type} (read? : Json → Option α) (write : α → Json) : Prop :=
  ∀ j a, read? j = some a ↔ j = write a

section Readers

variable {α : Type} {read? : Json → Option α} {write : α → Json}

theorem str?_readsExactly : ReadsExactly str? .string := by
  intro j a
  cases j <;> simp [str?]

theorem version?_readsExactly : ReadsExactly version? fun v => .nat v.toNat := by
  intro j v
  have hv : v.toNat ≤ 4294967295 := by
    have hlt := v.toNat_lt
    omega
  rw [version?, Json.nat?, Option.map_map, Option.map_eq_some_iff]
  constructor
  · rintro ⟨n, hn, rfl⟩
    cases j with
    | number number =>
        cases number with
        | int i =>
            simp only [Json.int?, Option.ite_none_right_eq_some, Option.some.injEq] at hn
            obtain ⟨⟨hleast, hgreatest⟩, rfl⟩ := hn
            have htoNat : (UInt32.ofNat i.toNat).toNat = i.toNat :=
              UInt32.toNat_ofNat_of_lt' (by simp only [UInt32.size]; omega)
            simp only [Function.comp_apply, htoNat, Json.nat, Int.toNat_of_nonneg hleast]
        | real negative x => simp [Json.int?] at hn
    | _ => simp [Json.int?] at hn
  · rintro rfl
    refine ⟨v.toNat, ?_, ?_⟩
    · simp only [Json.nat, Json.int?]
      exact if_pos ⟨by omega, by omega⟩
    · simp

theorem ReadsExactly.nullable (hread : ReadsExactly read? write)
    (hnull : ∀ a, write a ≠ .null) : ReadsExactly (nullable read?) (ofOption write) := by
  intro j a
  cases j with
  | null =>
      cases a with
      | none => simp [SourceMap.nullable, ofOption]
      | some a =>
          simp only [SourceMap.nullable, ofOption, Option.some.injEq, reduceCtorEq, false_iff]
          exact (hnull a).symm
  | _ =>
      rw [SourceMap.nullable]
      · rw [Option.map_eq_some_iff]
        cases a with
        | none => simp [ofOption]
        | some a => simp [hread _ a, ofOption]
      · simp

theorem mapM_eq_some_iff (hread : ReadsExactly read? write) {items : List Json} {list : List α} :
    items.mapM read? = some list ↔ items = list.map write := by
  induction items generalizing list with
  | nil =>
      rw [List.mapM_nil]
      cases list <;> simp
  | cons j rest ih =>
      rw [List.mapM_cons]
      cases list with
      | nil => simp [Option.bind_eq_some_iff]
      | cons a tail => simp [Option.bind_eq_some_iff, hread j, ih]

theorem ReadsExactly.listOf (hread : ReadsExactly read? write) :
    ReadsExactly (listOf read?) fun list => .array (list.map write) := by
  intro j list
  cases j with
  | array items => simp [SourceMap.listOf, items?, mapM_eq_some_iff hread]
  | _ => simp [SourceMap.listOf, items?]

/-- A missing value counts as the one that is written for it. -/
theorem ReadsExactly.optional_eq_some_iff (hread : ReadsExactly read? write) (missing : α)
    (slot : Option Json) (a : α) :
    optional missing read? slot = some a ↔ slot.getD (write missing) = write a := by
  have hwrite : ∀ b, read? (write b) = some b := fun b => (hread _ b).mpr rfl
  cases slot with
  | none =>
      rw [optional, Option.getD_none, Option.some.injEq]
      constructor
      · rintro rfl
        rfl
      · intro heq
        -- Both are read from one document, so they are equal.
        have hsame := hwrite missing
        rw [heq, hwrite a, Option.some.injEq] at hsame
        exact hsame.symm
  | some j => exact hread j a

end Readers

/-! ## The slots of a document -/

theorem forall₂_of_mapM {α β : Type} {f : α → Option β} {list : List α} {results : List β}
    (hresults : list.mapM f = some results) :
    List.Forall₂ (fun a b => f a = some b) list results := by
  induction list generalizing results with
  | nil =>
      rw [List.mapM_nil] at hresults
      cases hresults
      exact .nil
  | cons a rest ih =>
      rw [List.mapM_cons] at hresults
      simp only [Option.bind_eq_bind, Option.bind_eq_some_iff, Option.pure_def,
        Option.some.injEq] at hresults
      obtain ⟨b, hb, tail, htail, rfl⟩ := hresults
      exact .cons hb (ih htail)

theorem length_of_slots? {j : Json} {slots : List (Option Json)} (hslots : slots? j = some slots) :
    slots.length = keys.length := by
  cases j with
  | object members => exact (forall₂_of_mapM hslots).length_eq.symm
  | array parts =>
      rw [slots?, Option.ite_none_left_eq_some, Option.some.injEq] at hslots
      obtain ⟨hlength, rfl⟩ := hslots
      rw [List.length_append, List.length_map, List.length_replicate]
      omega
  | _ => cases hslots

theorem exists_slots {j : Json} {slots : List (Option Json)} (hslots : slots? j = some slots) :
    ∃ version file sourceRoot sources sourcesContent names mappings,
      slots = [version, file, sourceRoot, sources, sourcesContent, names, mappings] := by
  have hlength : slots.length = 7 := length_of_slots? hslots
  match slots, hlength with
  | [version, file, sourceRoot, sources, sourcesContent, names, mappings], _ =>
      exact ⟨version, file, sourceRoot, sources, sourcesContent, names, mappings, rfl⟩

theorem ofJson?_of_slots {j : Json} {slots : List (Option Json)} (hslots : slots? j = some slots)
    (m : SourceMap) :
    ofJson? j = some m ↔ List.zipWith Option.getD slots (values empty) = values m := by
  have htext := str?_readsExactly
  have hnullable : ReadsExactly (nullable str?) (ofOption .string) :=
    htext.nullable fun _ => Json.noConfusion
  have htexts : ReadsExactly (listOf (nullable str?)) textsToJson := hnullable.listOf
  have hcontents : ReadsExactly (nullable (listOf (nullable str?))) (ofOption textsToJson) :=
    htexts.nullable fun _ => Json.noConfusion
  have hnames : ReadsExactly (listOf str?) fun list => .array (list.map .string) := htext.listOf
  obtain ⟨v, f, r, s, c, n, t, rfl⟩ := exists_slots hslots
  have hv := version?_readsExactly.optional_eq_some_iff 0 v
  have hf := hnullable.optional_eq_some_iff none f
  have hr := hnullable.optional_eq_some_iff none r
  have hs := htexts.optional_eq_some_iff [] s
  have hc := hcontents.optional_eq_some_iff none c
  have hn := hnames.optional_eq_some_iff [] n
  have ht := htext.optional_eq_some_iff "" t
  rw [ofJson?, hslots]
  simp only [Option.bind_eq_bind, Option.bind_some, Option.bind_eq_some_iff, Option.pure_def,
    Option.some.injEq, values, empty, List.zipWith_cons_cons, List.zipWith_nil_left,
    List.cons.injEq, and_true]
  constructor
  · rintro ⟨_, hversion, _, hfile, _, hroot, _, hsources, _, hcontent, _, hname, _, hmappings, rfl⟩
    exact ⟨(hv _).mp hversion, (hf _).mp hfile, (hr _).mp hroot, (hs _).mp hsources,
      (hc _).mp hcontent, (hn _).mp hname, (ht _).mp hmappings⟩
  · rintro ⟨hversion, hfile, hroot, hsources, hcontent, hname, hmappings⟩
    exact ⟨_, (hv _).mpr hversion, _, (hf _).mpr hfile, _, (hr _).mpr hroot, _,
      (hs _).mpr hsources, _, (hc _).mpr hcontent, _, (hn _).mpr hname, _,
      (ht _).mpr hmappings, rfl⟩

/-- A document stands for a map if its slots, where nothing is missing or what is missing counts as
that of an empty map, are the values of the map. -/
theorem ofJson?_eq_some_iff {j : Json} {m : SourceMap} :
    ofJson? j = some m ↔ ∃ slots, slots? j = some slots ∧
      List.zipWith Option.getD slots (values empty) = values m := by
  constructor
  · intro hj
    cases hslots : slots? j with
    | none => simp [ofJson?, hslots] at hj
    | some slots => exact ⟨slots, rfl, (ofJson?_of_slots hslots m).mp hj⟩
  · rintro ⟨slots, hslots, hvalues⟩
    exact (ofJson?_of_slots hslots m).mpr hvalues

/-! ## The documents that are written -/

/-- The value unless it is null. -/
def present? : Json → Option Json
  | .null => none
  | j => some j

theorem slots?_toJson (m : SourceMap) : slots? (toJson m) = some ((values m).map present?) := by
  obtain ⟨version, file, sourceRoot, sources, sourcesContent, names, mappings⟩ := m
  cases file <;> cases sourceRoot <;> cases sourcesContent <;>
    simp [toJson, slots?, keys, only?, values, present?, ofOption, textsToJson, Json.nat]

theorem slots?_toJsonArray (m : SourceMap) :
    slots? (toJsonArray m) = some ((values m).map some) := by
  rfl

theorem ofJson?_toJson (m : SourceMap) : ofJson? (toJson m) = some m := by
  rw [ofJson?_of_slots (slots?_toJson m)]
  obtain ⟨version, file, sourceRoot, sources, sourcesContent, names, mappings⟩ := m
  cases file <;> cases sourceRoot <;> cases sourcesContent <;> rfl

theorem ofJson?_toJsonArray (m : SourceMap) : ofJson? (toJsonArray m) = some m := by
  rw [ofJson?_of_slots (slots?_toJsonArray m)]
  rfl

theorem present?_isSome_iff {j : Json} : (present? j).isSome = true ↔ j ≠ .null := by
  cases j <;> simp [present?]

theorem toJson_eq (m : SourceMap) :
    toJson m = .object ((keys.zip (values m)).filter fun member => (present? member.2).isSome) := by
  obtain ⟨version, file, sourceRoot, sources, sourcesContent, names, mappings⟩ := m
  cases file <;> cases sourceRoot <;> cases sourcesContent <;> rfl

theorem gives_toJson_iff (m : SourceMap) (key : String) (value : Json) :
    Gives (toJson m) key value ↔ (key, value) ∈ keys.zip (values m) ∧ value ≠ .null := by
  rw [toJson_eq, ← present?_isSome_iff]
  exact List.mem_filter

theorem mem_iff_of_only? {members : List (String × Json)} {key : String} {slot : Option Json}
    (hslot : only? members key = some slot) (value : Json) :
    (key, value) ∈ members ↔ slot = some value := by
  have hmem : (key, value) ∈ members ↔ (key, value) ∈ members.filter (·.1 = key) := by
    simp
  rw [hmem]
  unfold only? at hslot
  split at hslot
  · rename_i hnone
    rw [hnone]
    simp [← Option.some.inj hslot]
  · rename_i first j hone
    have hkey : first = key := by
      have hfirst : (first, j) ∈ members.filter (·.1 = key) := by simp [hone]
      simpa using (List.mem_filter.mp hfirst).2
    rw [hone, ← Option.some.inj hslot]
    simp [hkey, eq_comm]
  · cases hslot

theorem mem_zip_filled_iff {key : String} {value : Json} (names : List String)
    (parts : List Json) (missing : Nat) :
    (key, some value) ∈ names.zip (parts.map some ++ List.replicate missing none) ↔
      (key, value) ∈ names.zip parts := by
  induction parts generalizing names with
  | nil =>
      rw [List.map_nil, List.nil_append, List.zip_nil_right]
      refine iff_of_false ?_ List.not_mem_nil
      intro hmem
      have hnone := List.eq_of_mem_replicate (List.of_mem_zip hmem).2
      cases hnone
  | cons part rest ih =>
      cases names with
      | nil => simp
      | cons name others => simp [ih others]

theorem existsUnique_slot {α : Type} {slots : List α} (hlength : slots.length = keys.length)
    {key : String} (hkey : key ∈ keys) : ∃! slot, (key, slot) ∈ keys.zip slots := by
  have hfst : (keys.zip slots).map Prod.fst = keys := List.map_fst_zip hlength.ge
  have hmem : key ∈ (keys.zip slots).map Prod.fst := by rwa [hfst]
  obtain ⟨⟨name, slot⟩, hslot, rfl⟩ := List.mem_map.mp hmem
  refine ⟨slot, hslot, ?_⟩
  intro other hother
  have hnodup : ((keys.zip slots).map Prod.fst).Nodup := by
    rw [hfst]
    decide
  exact congrArg Prod.snd (List.inj_on_of_nodup_map hnodup hother hslot rfl)

theorem gives_iff {j : Json} {slots : List (Option Json)} (hslots : slots? j = some slots)
    {key : String} {slot : Option Json} (hslot : (key, slot) ∈ keys.zip slots) (value : Json) :
    Gives j key value ↔ slot = some value := by
  cases j with
  | object members =>
      have hread := (List.forall₂_iff_zip.mp (forall₂_of_mapM hslots)).2 hslot
      exact mem_iff_of_only? hread value
  | array parts =>
      have hunique := existsUnique_slot (length_of_slots? hslots) (List.of_mem_zip hslot).1
      rw [slots?, Option.ite_none_left_eq_some, Option.some.injEq] at hslots
      obtain ⟨-, rfl⟩ := hslots
      refine (mem_zip_filled_iff keys parts (keys.length - parts.length)).symm.trans ⟨?_, ?_⟩
      · exact fun hvalue => hunique.unique hslot hvalue
      · rintro rfl
        exact hslot
  | _ => cases hslots

/-! ## What is kept -/

theorem mem_zip_values {slots : List (Option Json)} {m : SourceMap}
    (hvalues : List.zipWith Option.getD slots (values empty) = values m) {key : String}
    {slot : Option Json} (hslot : (key, slot) ∈ keys.zip slots) :
    ∃ missing, (key, missing) ∈ keys.zip (values empty) ∧
      (key, slot.getD missing) ∈ keys.zip (values m) := by
  obtain ⟨i, hi⟩ := List.mem_iff_getElem?.mp hslot
  obtain ⟨hkey, hat⟩ := List.getElem?_zip_eq_some.mp hi
  have hlt : i < (values empty).length := (List.getElem?_eq_some_iff.mp hkey).1
  have hmissing : (values empty)[i]? = some (values empty)[i] := List.getElem?_eq_getElem hlt
  have hfilled : (values m)[i]? = some (slot.getD (values empty)[i]) := by
    rw [← hvalues, List.getElem?_zipWith_eq_some]
    exact ⟨slot, _, hat, hmissing, rfl⟩
  refine ⟨(values empty)[i], ?_, ?_⟩
  · exact List.mem_iff_getElem?.mpr ⟨i, List.getElem?_zip_eq_some.mpr ⟨hkey, hmissing⟩⟩
  · exact List.mem_iff_getElem?.mpr ⟨i, List.getElem?_zip_eq_some.mpr ⟨hkey, hfilled⟩⟩

theorem mem_optionalKeys_of_null {m : SourceMap} {key : String}
    (hnull : (key, Json.null) ∈ keys.zip (values m)) : key ∈ optionalKeys := by
  simp only [keys, values, Json.nat, textsToJson, List.zip_cons_cons, List.zip_nil_right,
    List.mem_cons, Prod.mk.injEq, reduceCtorEq, and_false, false_or, or_false,
    List.not_mem_nil] at hnull
  rcases hnull with ⟨rfl, -⟩ | ⟨rfl, -⟩ | ⟨rfl, -⟩ <;> decide

theorem keeps_toJson {j : Json} {m : SourceMap} (hj : ofJson? j = some m) :
    Keeps j (toJson m) := by
  obtain ⟨slots, hslots, hvalues⟩ := ofJson?_eq_some_iff.mp hj
  have hlength := length_of_slots? hslots
  constructor
  · intro key value hgives
    by_cases hkey : key ∈ keys
    · obtain ⟨slot, hslot, -⟩ := existsUnique_slot hlength hkey
      obtain rfl : slot = some value := (gives_iff hslots hslot value).mp hgives
      obtain ⟨missing, -, hvalue⟩ := mem_zip_values hvalues hslot
      rw [Option.getD_some] at hvalue
      by_cases hnull : value = .null
      · exact .inr (.inr ⟨mem_optionalKeys_of_null (hnull ▸ hvalue), hnull⟩)
      · exact .inl ((gives_toJson_iff m key value).mpr ⟨hvalue, hnull⟩)
    · exact .inr (.inl hkey)
  · intro key value hgives
    obtain ⟨hvalue, hnull⟩ := (gives_toJson_iff m key value).mp hgives
    have hkey := (List.of_mem_zip hvalue).1
    obtain ⟨slot, hslot, -⟩ := existsUnique_slot hlength hkey
    obtain ⟨missing, hmissing, hfilled⟩ := mem_zip_values hvalues hslot
    have hall : (values m).length = keys.length := rfl
    have hunique := existsUnique_slot hall hkey
    obtain rfl : slot.getD missing = value := hunique.unique hfilled hvalue
    cases slot with
    | some given => exact .inl ((gives_iff hslots hslot given).mpr rfl)
    | none =>
        refine .inr ⟨?_, (gives_toJson_iff empty key missing).mpr ⟨hmissing, hnull⟩⟩
        intro given hgiven
        have hnone := (gives_iff hslots hslot given).mp hgiven
        cases hnone
  · intro key value hgives
    obtain ⟨hvalue, hnull⟩ := (gives_toJson_iff m key value).mp hgives
    exact ⟨(List.of_mem_zip hvalue).1, hnull⟩

theorem isPlain_nat_toNat (v : UInt32) : IsPlain (.nat v.toNat) := by
  have hlt := v.toNat_lt
  refine .number ⟨?_, ?_⟩ <;> simp only [negativeLimit, wordLimit] <;> omega

theorem isPlain_ofOption {α : Type} {write : α → Json} (hwrite : ∀ a, IsPlain (write a))
    (slot : Option α) : IsPlain (ofOption write slot) := by
  cases slot with
  | none => exact .null
  | some a => exact hwrite a

theorem isPlain_array_map {α : Type} {write : α → Json} (hwrite : ∀ a, IsPlain (write a))
    (list : List α) : IsPlain (.array (list.map write)) := by
  apply IsPlain.array
  intro j hj
  obtain ⟨a, -, rfl⟩ := List.mem_map.mp hj
  exact hwrite a

theorem isPlain_of_mem_values {m : SourceMap} {j : Json} (hj : j ∈ values m) : j.IsPlain := by
  have htexts := isPlain_array_map (isPlain_ofOption IsPlain.string)
  simp only [values, List.mem_cons, List.not_mem_nil, or_false] at hj
  rcases hj with rfl | rfl | rfl | rfl | rfl | rfl | rfl
  · exact isPlain_nat_toNat m.version
  · exact isPlain_ofOption IsPlain.string m.file
  · exact isPlain_ofOption IsPlain.string m.sourceRoot
  · exact htexts m.sources
  · exact isPlain_ofOption htexts m.sourcesContent
  · exact isPlain_array_map IsPlain.string m.names
  · exact .string m.mappings

theorem isPlain_toJson (m : SourceMap) : (toJson m).IsPlain := by
  rw [toJson_eq]
  apply IsPlain.object
  intro member hmember
  exact isPlain_of_mem_values (List.of_mem_zip (List.mem_filter.mp hmember).1).2

theorem isPlain_toJsonArray (m : SourceMap) : (toJsonArray m).IsPlain :=
  .array fun _ => isPlain_of_mem_values

theorem ofText?_render {j : Json} (hj : j.IsPlain) : ofText? j.render = ofJson? j := by
  rw [ofText?, Json.render, String.toList_ofList, hj.read?_write, Option.bind_some]

/-- A map is what its documents stand for, written as an object or as an array; and any document
that stands for it says, apart from unknown keys and needless nulls, what the written one does. -/
theorem ofText?_documents (m : SourceMap) :
    ofText? (toJson m).render = some m ∧ ofText? (toJsonArray m).render = some m ∧
      ∀ text, ofText? text = some m →
        ofText? (toJson m).render = some m ∧
          ∃ j, Json.read? text.toList = some j ∧ Keeps j (toJson m) := by
  have hobject : ofText? (toJson m).render = some m := by
    rw [ofText?_render (isPlain_toJson m), ofJson?_toJson]
  have harray : ofText? (toJsonArray m).render = some m := by
    rw [ofText?_render (isPlain_toJsonArray m), ofJson?_toJsonArray]
  refine ⟨hobject, harray, ?_⟩
  intro text htext
  obtain ⟨j, hread, hj⟩ := Option.bind_eq_some_iff.mp htext
  exact ⟨hobject, j, hread, keeps_toJson hj⟩

/-- Another order, an unknown key, a needless null and values that are missing. -/
theorem ofText?_documents_of_scattered_keys :
    let m : SourceMap := ⟨3, none, none, [none, some ""], none, [], "A"⟩
    let text := "\x7b\"mappings\":\"A\",\"x\":[1],\"file\":null," ++
      "\"sources\":[null,\"\"],\"version\":3\x7d"
    ofText? text = some m ∧ ofText? (toJson m).render = some m ∧
      ∃ j, Json.read? text.toList = some j ∧ Keeps j (toJson m) := by
  intro m text
  have htext : ofText? text = some m := by
    decide +kernel
  obtain ⟨-, -, hdocument⟩ := ofText?_documents m
  exact ⟨htext, hdocument text htext⟩

end ErrorOrigin.SourceMap
