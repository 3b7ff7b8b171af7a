import Mathlib.Algebra.Ring.Nat
import RecordScreens.Board.Basic
import RecordScreens.Proofs.Board.Mapping
import RecordScreens.Proofs.Positions
import RecordScreens.Record.Dynamic

/-!
# Records in columns

On a mapping that was built, the columns share out the records that are shown: each of
them stands in one column, once, and in the order of the board. Records may be equal, so
this is said of their places.
-/

namespace RecordScreens.Board

/-! ## Places -/

section

variable {R : Type} {p : R → Bool} {records : List R}

/-- The places of the records with a property. -/
def placesWhere (p : R → Bool) (records : List R) : List Nat := (records.zipIdx.filter (p ·.1)).map (·.2)

theorem placesWhere_ordered (p : R → Bool) (records : List R) : (placesWhere p records).Pairwise (· < ·) := by
  have hall : (records.zipIdx.map (·.2)).Pairwise (· < ·) := by
    rw [List.zipIdx_map_snd]
    exact List.pairwise_lt_range'
  exact hall.sublist (List.filter_sublist.map _)

theorem mem_placesWhere {i : Nat} : i ∈ placesWhere p records ↔ (records[i]?).any p = true := by
  simp only [placesWhere, List.mem_map, List.mem_filter, Prod.exists, List.mem_zipIdx_iff_getElem?, Option.any_eq_true]
  constructor
  · rintro ⟨r, j, ⟨hr, hp⟩, rfl⟩
    exact ⟨r, hr, hp⟩
  · rintro ⟨r, hr, hp⟩
    exact ⟨r, i, ⟨hr, hp⟩, rfl⟩

/-- At these places stand the records with the property. -/
theorem map_placesWhere (p : R → Bool) (records : List R) :
    (placesWhere p records).map (records[·]?) = (records.filter p).map some := by
  have hplace : ∀ e ∈ records.zipIdx.filter (p ·.1), records[e.2]? = some e.1 :=
    fun e he => List.mem_zipIdx_iff_getElem?.mp (List.mem_filter.mp he).1
  have hrecords : records.filter p = (records.zipIdx.filter (p ·.1)).map (·.1) := by
    conv_lhs => rw [← List.zipIdx_map_fst 0 records, List.filter_map]
    rfl
  rw [placesWhere, hrecords, List.map_map, List.map_map]
  exact List.map_congr_left hplace

theorem length_placesWhere (p : R → Bool) (records : List R) : (placesWhere p records).length = records.countP p := by
  have hlength := congrArg List.length (map_placesWhere p records)
  rwa [List.length_map, List.length_map, ← List.countP_eq_length_filter] at hlength

end

/-! ## Records that are shown -/

variable {R : Type} [BoardRecord R] {b : Board R} {m : ColumnMapping} {column : String}

/-- Whether a record is in any column: its status does not keep it off the board. -/
def isShown (m : ColumnMapping) (r : R) : Bool := !m.isHidden (statusOf r)

/-- The columns of a board show the records at these places, each column in the order of the board. Of the places of
all columns together, each one of a record that is shown is one, once, and no other place is. -/
structure Partitioned (b : Board R) (places : List (List Nat)) : Prop where
  records_eq : b.columns.map (·.records.map some) = places.map (·.map (b.records[·]?))
  ordered : ∀ column ∈ places, column.Pairwise (· < ·)
  count_eq : ∀ i, places.flatten.count i = if (b.records[i]?).any (isShown b.mapping) then 1 else 0

/-- A record is shown in the column of its status. -/
theorem isIn_iff {r : R} : isIn m column r = true ↔ isShown m r = true ∧ m.columnOf (statusOf r) = column := by
  simp [isIn, isShown]

/-- The places of one column after the other are those of all records that are shown. -/
theorem placesWhere_isIn_perm (hm : b.mapping.WellFormed) :
    (b.mapping.columns.flatMap fun column => placesWhere (isIn b.mapping column.id) b.records).Perm
      (placesWhere (isShown b.mapping) b.records) := by
  let shown := b.records.zipIdx.filter (isShown b.mapping ·.1)
  let columnAt (e : R × Nat) : String := b.mapping.columnOf (statusOf e.1)
  have hcolumn (id : String) : b.records.zipIdx.filter (isIn b.mapping id ·.1) = shown.filter (columnAt · = id) := by
    rw [List.filter_filter]
    refine List.filter_congr fun e _ => ?_
    rw [Bool.eq_iff_iff, isIn_iff]
    simp [columnAt, and_comm]
  have hall : shown.filter (columnAt · ∈ b.mapping.claims.map (·.column.id)) = shown :=
    List.filter_eq_self.mpr fun e _ => decide_eq_true (ColumnMapping.declares_columnOf hm _)
  have hperm := (flatMap_filter_perm hm.columns_nodup columnAt shown).map (·.2)
  rw [hall, List.map_flatMap, List.flatMap_map] at hperm
  simpa only [placesWhere, hcolumn, ColumnMapping.columns, List.flatMap_map] using hperm

theorem partitioned_columns (hm : b.mapping.WellFormed) :
    b.Partitioned (b.mapping.columns.map fun column => placesWhere (isIn b.mapping column.id) b.records) where
  records_eq := by
    simp only [columns, List.map_map, Function.comp_def, map_placesWhere]
  ordered := by
    intro places hplaces
    obtain ⟨column, -, rfl⟩ := List.mem_map.mp hplaces
    exact placesWhere_ordered _ _
  count_eq := by
    intro i
    rw [← List.flatMap_def, (placesWhere_isIn_perm hm).count_eq, List.Nodup.count]
    · simp only [mem_placesWhere]
    · exact (placesWhere_ordered _ _).imp Nat.ne_of_lt

/-! ## One record -/

/-- The columns that show a record with an id, each one as often as it does. -/
def listed (b : Board R) (id : String) : List String :=
  b.columns.flatMap fun view => (view.records.filter (Record.id · == id)).map fun _ => view.column.id

/-- Where ids differ, a record is listed once, in the column of its status, unless it is not shown. -/
theorem listed_eq {id : String} {r : R} (hm : b.mapping.WellFormed)
    (hids : (b.records.map (Record.id (R := R))).Nodup) (hr : b.record? id = some r) :
    b.listed id = if b.mapping.isHidden (statusOf r) then [] else [b.mapping.columnOf (statusOf r)] := by
  let own := b.mapping.columnOf (statusOf r)
  have hview (column : BoardColumn) :
      ((b.records.filter (isIn b.mapping column.id)).filter (Record.id · == id)).map (fun _ => column.id) =
        if isShown b.mapping r ∧ own = column.id then [own] else [] := by
    rw [List.filter_comm, filter_key_of_find? hids hr]
    by_cases hhere : isShown b.mapping r ∧ own = column.id
    · have hin : isIn b.mapping column.id r = true := isIn_iff.mpr hhere
      rw [if_pos hhere, hhere.2]
      simp [hin]
    · have hout : isIn b.mapping column.id r = false := Bool.eq_false_iff.mpr (mt isIn_iff.mp hhere)
      rw [if_neg hhere]
      simp [hout]
  simp only [listed, columns, List.flatMap_map, hview]
  cases hhidden : b.mapping.isHidden (statusOf r) with
  | true => simp [isShown, hhidden]
  | false =>
    -- The column of the status is one of the mapping, and there only once.
    have hperm := flatMap_filter_perm hm.columns_nodup (fun column : String => column) [own]
    have hdeclared : own ∈ b.mapping.claims.map (·.column.id) := ColumnMapping.declares_columnOf hm _
    simp only [List.filter_cons, List.filter_nil, decide_eq_true_eq, if_pos hdeclared, List.flatMap_map] at hperm
    simpa [isShown, hhidden, ColumnMapping.columns, List.flatMap_map] using hperm.eq_singleton

/-! ## Columns -/

/-- The columns are those that were declared, in order, and they share out the records that are shown, each to the
column of its status. So there are as many records in all columns as are shown. -/
theorem columns_partition {d : MappingDraft} (hbuild : d.build = .ok b.mapping) :
    b.columns.map (·.column) = d.claims.map (·.column) ∧
    (∃ places, b.Partitioned places) ∧
    (∀ view ∈ b.columns, ∀ r ∈ view.records, b.mapping.columnOf (statusOf r) = view.column.id) ∧
    (b.columns.map (·.records.length)).sum = b.records.countP (isShown b.mapping) := by
  have hm := MappingDraft.wellFormed_of_build hbuild
  refine ⟨?_, ⟨_, partitioned_columns hm⟩, ?_, ?_⟩
  · simp only [columns, List.map_map, Function.comp_def, ColumnMapping.columns,
      MappingDraft.claims_of_build hbuild]
  · intro view hview r hr
    obtain ⟨column, -, rfl⟩ := List.mem_map.mp hview
    exact (isIn_iff.mp (List.mem_filter.mp hr).2).2
  · have hlength := (placesWhere_isIn_perm hm).length_eq
    rw [List.length_flatMap, length_placesWhere] at hlength
    simpa only [columns, List.map_map, Function.comp_def, length_placesWhere, List.countP_eq_length_filter]
      using hlength

/-- Columns that claim a status that is hidden and the one of records without any, and a record that is there twice. -/
def backlog : Board JsonRecord where
  mapping := {
    claims := [⟨{ id := "open", title := "Open" }, ["new", "spam"]⟩,
      ⟨{ id := "done", title := "Done" }, ["closed", ""]⟩]
    fallback := "done"
    hidden := ["spam"] }
  commitKey := "move"
  records := [⟨[("id", .string "a"), ("status", .string "new")]⟩, ⟨[("id", .string "b"), ("status", .string "spam")]⟩,
    ⟨[("id", .string "c")]⟩, ⟨[("id", .string "a"), ("status", .string "new")]⟩,
    ⟨[("id", .string "d"), ("status", .string "lost")]⟩]

/-- Two columns with two records each, and one record in none. -/
theorem columns_partition_backlog :
    MappingDraft.build { claims := backlog.mapping.claims, fallback := some "done", hidden := ["spam"] } =
      .ok backlog.mapping ∧
    (∃ places, backlog.Partitioned places) ∧ (backlog.columns.map (·.records.length)).sum = 4 := by
  have hbuild : MappingDraft.build
      { claims := backlog.mapping.claims, fallback := some "done", hidden := ["spam"] } = .ok backlog.mapping := rfl
  obtain ⟨-, hplaces, -, hsum⟩ := columns_partition hbuild
  refine ⟨hbuild, hplaces, ?_⟩
  rw [hsum]
  decide

end RecordScreens.Board
