import RecordScreens.Proofs.Listing.Accepted

/-!
# Lists that were built

What a list screen may rely on: the checks that its configuration has passed, said of the configuration itself.
-/

namespace RecordScreens

variable {R : Type}

namespace ListConfig

/-- A column that a list can be sorted by has this key. -/
def SortableBy (c : ListConfig R) (key : String) : Prop :=
  ∃ column ∈ c.columns, column.key = key ∧ column.sortable = true

/-- What holds of every configuration that was built. -/
structure Sound (c : ListConfig R) : Prop where
  pageSize_ne : c.pageSize ≠ 0
  filterKeys : (c.filters.map (·.key)).Nodup
  columnKeys : (c.columns.map (·.key)).Nodup
  actionIds : (c.quickActions.map (·.id)).Nodup
  sortable : ∀ key order, c.defaultSort = some (key, order) → c.SortableBy key

end ListConfig

theorem ListDraft.sound_of_build [Record R] {d : ListDraft R} {c : ListConfig R} (h : d.build = .ok c) : c.Sound := by
  have hd : d.WellFormed := wellFormed_of_build h
  obtain ⟨_, _, _, -, -, -, rfl⟩ := eq_finish_of_build h
  exact ⟨hd.pageSize_ne_zero, hd.filterKeys_nodup, hd.columnKeys_nodup, hd.actionIds_nodup, hd.sorts⟩

end RecordScreens
