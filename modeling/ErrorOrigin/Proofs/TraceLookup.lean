import ErrorOrigin.Proofs.MappingsText
import ErrorOrigin.SourceMap.Trace
import Mathlib.Tactic

/-!
# Looking up written positions

The trace sorts each line and takes the last segment of an initial run.  What a table says about a
position needs no order: of the segments at or before the column, those with the greatest column
count, and of these the last one written.  Both agree because sorting keeps segments of one column
in the order of the text.
-/

namespace ErrorOrigin.SourceMap

/-- The segment that decides about a column, for segments in any order. -/
def deciding? (segments : List Segment) (column : Int) : Option Segment := do
  let greatest ← ((segments.map (·.column)).filter (· ≤ column)).max?
  (segments.filter (·.column = greatest)).getLast?

/-- The origin that an anchor of a table stands for, unless its source is missing or its position
is beyond the greatest that can be reported. -/
def Anchor.tabled? (m : SourceMap) (a : Anchor) : Option Origin := do
  let source ← m.source? a.source.toNat
  if 4294967295 < a.line + 1 ∨ 4294967295 < a.column then none
  else
    pure ⟨source, a.line.toNat + 1, a.column.toNat, a.name.bind (m.names[·.toNat]?)⟩

/-- What a table of segments says about a position, its line counted from one. -/
def tabled? (m : SourceMap) (table : List (List Segment)) (line column : Nat) :
    Option Origin := do
  if line = 0 then none
  else
    let segments ← table[line - 1]?
    let segment ← deciding? segments column
    (← segment.anchor).tabled? m

/-! ## Sorted lines -/

theorem byColumn_perm (segments : List Segment) : (byColumn segments).Perm segments :=
  List.mergeSort_perm segments _

private theorem columnLe_trans (a b c : Segment) (hab : decide (a.column ≤ b.column) = true)
    (hbc : decide (b.column ≤ c.column) = true) : decide (a.column ≤ c.column) = true := by
  simp only [decide_eq_true_eq] at hab hbc ⊢
  omega

private theorem columnLe_total (a b : Segment) :
    (decide (a.column ≤ b.column) || decide (b.column ≤ a.column)) = true := by
  simp only [Bool.or_eq_true, decide_eq_true_eq]
  omega

theorem byColumn_sorted (segments : List Segment) :
    (byColumn segments).Pairwise fun a b => a.column ≤ b.column := by
  have hsorted := List.pairwise_mergeSort columnLe_trans columnLe_total segments
  simpa [byColumn] using hsorted

theorem byColumn_filter (segments : List Segment) (column : Int) :
    (byColumn segments).filter (·.column = column) = segments.filter (·.column = column) := by
  have htied : (segments.filter (·.column = column)).Pairwise
      fun a b => decide (a.column ≤ b.column) = true := by
    apply List.pairwise_of_forall_mem_list
    intro a ha b hb
    have hacolumn := of_decide_eq_true (List.mem_filter.mp ha).2
    have hbcolumn := of_decide_eq_true (List.mem_filter.mp hb).2
    simp [hacolumn, hbcolumn]
  have hsublist : (segments.filter (·.column = column)).Sublist (byColumn segments) :=
    List.sublist_mergeSort columnLe_trans columnLe_total htied List.filter_sublist
  have hkept : (segments.filter (·.column = column)).Sublist
      ((byColumn segments).filter (·.column = column)) := by
    have hfilter := hsublist.filter (·.column = column)
    rwa [List.filter_filter, show (fun s : Segment => decide (s.column = column) &&
      decide (s.column = column)) = fun s => decide (s.column = column) by simp] at hfilter
  have hlength := ((byColumn_perm segments).filter (·.column = column)).length_eq
  exact (hkept.eq_of_length hlength.symm).symm

theorem max?_eq_of_perm {list other : List Int} (hperm : list.Perm other) :
    list.max? = other.max? := by
  apply Option.ext
  intro greatest
  rw [List.max?_eq_some_iff, List.max?_eq_some_iff, hperm.mem_iff]
  simp only [hperm.mem_iff]

theorem deciding?_byColumn (segments : List Segment) (column : Int) :
    deciding? (byColumn segments) column = deciding? segments column := by
  have hmax := max?_eq_of_perm
    (((byColumn_perm segments).map (·.column)).filter (· ≤ column))
  simp only [deciding?, hmax, byColumn_filter]

theorem takeWhile_eq_filter_of_sorted {segments : List Segment} (column : Int)
    (hsorted : segments.Pairwise fun a b => a.column ≤ b.column) :
    (segments.takeWhile fun s => s.column ≤ column) =
      segments.filter fun s => s.column ≤ column := by
  induction segments with
  | nil => rfl
  | cons s rest ih =>
      obtain ⟨hs, hrest⟩ := List.pairwise_cons.mp hsorted
      by_cases hreached : s.column ≤ column
      · simp [hreached, ih hrest]
      · have hnone : ∀ r ∈ rest, ¬ r.column ≤ column := by
          intro r hr hle
          have hge := hs r hr
          omega
        simpa [hreached] using hnone

/-- On a sorted line the deciding segment is the last one that has been reached. -/
theorem getLast?_filter_of_sorted {segments : List Segment} (column : Int)
    (hsorted : segments.Pairwise fun a b => a.column ≤ b.column) :
    (segments.filter fun s => s.column ≤ column).getLast? = deciding? segments column := by
  have hcolumns : (segments.map (·.column)).filter (· ≤ column) =
      (segments.filter fun s => s.column ≤ column).map (·.column) := by
    rw [List.filter_map]
    rfl
  rcases List.eq_nil_or_concat' (segments.filter fun s => s.column ≤ column) with
    hnone | ⟨before, s, hreached⟩
  · simp [deciding?, hcolumns, hnone]
  · have hsortedReached : (before ++ [s]).Pairwise fun a b => a.column ≤ b.column := by
      rw [← hreached]
      exact hsorted.filter _
    have hgreatest : ((before ++ [s]).map (·.column)).max? = some s.column := by
      rw [List.max?_eq_some_iff]
      refine ⟨List.mem_map.mpr ⟨s, by simp, rfl⟩, ?_⟩
      intro other hother
      obtain ⟨r, hr, rfl⟩ := List.mem_map.mp hother
      rcases List.mem_append.mp hr with hr | hr
      · exact (List.pairwise_append.mp hsortedReached).2.2 r hr s (by simp)
      · rw [List.mem_singleton.mp hr]
    have hsmem : s ∈ segments.filter fun s => s.column ≤ column := by
      simp [hreached]
    have hscolumn : s.column ≤ column := of_decide_eq_true (List.mem_filter.mp hsmem).2
    have htied : segments.filter (·.column = s.column) =
        (before ++ [s]).filter (·.column = s.column) := by
      rw [← hreached, List.filter_filter]
      apply List.filter_congr
      intro r _
      by_cases hr : r.column = s.column <;> simp [hr, hscolumn]
    rw [deciding?, hcolumns, hreached, hgreatest]
    simp only [Option.bind_eq_bind, Option.bind_some]
    rw [htied, List.filter_append]
    simp

theorem getLast?_takeWhile_byColumn (segments : List Segment) (column : Int) :
    ((byColumn segments).takeWhile fun s => s.column ≤ column).getLast? =
      deciding? segments column := by
  have hsorted := byColumn_sorted segments
  rw [takeWhile_eq_filter_of_sorted column hsorted, getLast?_filter_of_sorted column hsorted,
    deciding?_byColumn]

theorem mem_of_deciding? {segments : List Segment} {column : Int} {s : Segment}
    (hs : deciding? segments column = some s) : s ∈ segments := by
  rw [deciding?, Option.bind_eq_bind, Option.bind_eq_some_iff] at hs
  obtain ⟨greatest, -, hlast⟩ := hs
  exact (List.mem_filter.mp (List.mem_of_getLast? hlast)).1

/-! ## Origins -/

theorem nth?_of_isCoordinate {α : Type} (list : List α) {index : Int}
    (hindex : IsCoordinate index) : nth? list index = list[index.toNat]? := by
  obtain ⟨n, rfl⟩ := Int.eq_ofNat_of_zero_le hindex.1
  rfl

theorem Anchor.origin?_eq_tabled? (m : SourceMap) {a : Anchor} (ha : a.Writable) :
    a.origin? m.resolvedSources m.names = a.tabled? m := by
  have hsource : nth? m.resolvedSources a.source = m.resolvedSources[a.source.toNat]? :=
    nth?_of_isCoordinate _ ha.source
  have hname : a.name.bind (nth? m.names) = a.name.bind (m.names[·.toNat]?) := by
    cases hn : a.name with
    | none => rfl
    | some n => exact nth?_of_isCoordinate m.names (ha.name n hn)
  have hreportable :
      (0 ≤ a.line ∧ a.line + 1 ≤ (Position.greatest : Int) ∧
        0 ≤ a.column ∧ a.column ≤ (Position.greatest : Int)) ↔
      ¬ (4294967295 < a.line + 1 ∨ 4294967295 < a.column) := by
    have hline := ha.line.1
    have hcolumn := ha.column.1
    rw [show (Position.greatest : Int) = 4294967295 from rfl]
    omega
  rw [Anchor.origin?, Anchor.tabled?, hsource, hname, ← m.resolvedSources_getElem?]
  cases m.resolvedSources[a.source.toNat]? with
  | none => rfl
  | some source =>
      cases source with
      | none => rfl
      | some source =>
          simp only [Option.bind_eq_bind, Option.bind_some, Option.join_some, hreportable]
          by_cases hgreat : 4294967295 < a.line + 1 ∨ 4294967295 < a.column
          · rw [if_neg (not_not_intro hgreat), if_pos hgreat]
          · rw [if_pos hgreat, if_neg hgreat]

theorem trace_of_decodeMappings {m : SourceMap} {lines : List (List Segment)}
    (hversion : m.version = 3) (hlines : decodeMappings m.mappings = .ok lines) :
    m.trace = .ok ⟨m.resolvedSources, m.names, lines.map byColumn⟩ := by
  simp [trace, hversion, hlines, Except.map]

/-- Sorting the lines of a trace does not change what a table says. -/
theorem origin?_byColumn (m : SourceMap) {table : List (List Segment)}
    (htable : ∀ segments ∈ table, ∀ s ∈ segments, s.Writable) (line column : Nat) :
    Trace.origin? ⟨m.resolvedSources, m.names, table.map byColumn⟩ line column =
      tabled? m table line column := by
  rw [Trace.origin?, tabled?]
  by_cases hzero : line = 0
  · rw [if_pos hzero, if_pos hzero]
  · rw [if_neg hzero, if_neg hzero]
    simp only [List.getElem?_map]
    cases hsegments : table[line - 1]? with
    | none => rfl
    | some segments =>
        simp only [Option.map_some, Option.bind_eq_bind, Option.bind_some,
          getLast?_takeWhile_byColumn]
        cases hsegment : deciding? segments column with
        | none => rfl
        | some segment =>
            have hwritable := htable segments (List.mem_of_getElem? hsegments) segment
              (mem_of_deciding? hsegment)
            cases hanchor : segment.anchor with
            | none => simp [hanchor]
            | some anchor =>
                simp only [Option.bind_some, hanchor]
                exact anchor.origin?_eq_tabled? m (hwritable.anchor anchor hanchor)

theorem tabled?_of_no_segments (m : SourceMap) (line column : Nat) :
    tabled? m [[]] line column = tabled? m [] line column := by
  rw [tabled?, tabled?]
  cases line with
  | zero => rfl
  | succ index =>
      cases index with
      | zero => rfl
      | succ index => rfl

/-- A map whose mappings are written from a table can be traced, and at every position it says
what the table says. -/
theorem origin?_of_encodeMappings {m : SourceMap} {table : List (List Segment)}
    (hversion : m.version = 3) (hmappings : m.mappings = encodeMappings table)
    (htable : ∀ segments ∈ table, ∀ s ∈ segments, s.Writable) :
    ∃ t, m.trace = .ok t ∧
      ∀ line column : Nat, t.origin? line column = tabled? m table line column := by
  have hlines := decodeMappings_encodeMappings htable
  rw [← hmappings] at hlines
  refine ⟨_, trace_of_decodeMappings hversion hlines, ?_⟩
  intro line column
  by_cases hempty : table = []
  · subst table
    rw [if_pos rfl, origin?_byColumn m (by simp), tabled?_of_no_segments]
  · rw [if_neg hempty, origin?_byColumn m htable]

/-- Of two segments at one column the later one written decides, although the line is not in
order. -/
theorem origin?_of_encodeMappings_unordered :
    let table : List (List Segment) :=
      [[], [⟨8, none⟩, ⟨4, some ⟨0, 2, 3, none⟩⟩, ⟨4, some ⟨1, 6, 7, some 0⟩⟩]]
    let m : SourceMap :=
      ⟨3, none, some "src", [none, some "b.ts"], none, ["render"], encodeMappings table⟩
    (∀ segments ∈ table, ∀ s ∈ segments, s.Writable) ∧
      ∃ t, m.trace = .ok t ∧ t.origin? 2 5 = some ⟨"src/b.ts", 7, 7, some "render"⟩ := by
  intro table m
  have htable : ∀ segments ∈ table, ∀ s ∈ segments, s.Writable := by
    intro segments hsegments s hs
    simp only [table, List.mem_cons, List.not_mem_nil, or_false] at hsegments
    rcases hsegments with rfl | rfl
    · simp at hs
    · simp only [List.mem_cons, List.not_mem_nil, or_false] at hs
      rcases hs with rfl | rfl | rfl <;>
        refine ⟨by simp [IsCoordinate], ?_⟩ <;> intro a ha <;> cases ha <;>
        constructor <;> simp [IsCoordinate]
  obtain ⟨t, ht, horigin⟩ := origin?_of_encodeMappings (m := m) rfl rfl htable
  refine ⟨htable, t, ht, ?_⟩
  rw [horigin]
  decide +kernel

end ErrorOrigin.SourceMap
