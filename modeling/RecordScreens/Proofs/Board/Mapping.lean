import RecordScreens.Board.Mapping
import RecordScreens.Proofs.Failure.Checks

/-!
# Built column mappings

What the checks of a build establish: no status and no column id is claimed twice, every
column has a status for what is dropped on it, and the fallback is one of the columns.
A status then maps to one column, and what is dropped on a column maps back to it. A draft
is built just when it passes these checks.
-/

namespace RecordScreens

namespace ColumnMapping

/-! ## Well-formedness -/

/-- Whether a column is one of the mapping. -/
def Declares (m : ColumnMapping) (column : String) : Prop := column ∈ m.claims.map (·.column.id)

instance (m : ColumnMapping) (column : String) : Decidable (m.Declares column) :=
  inferInstanceAs (Decidable (column ∈ _))

/-- No two claims are at odds, and every status has a column. -/
structure WellFormed (m : ColumnMapping) : Prop where
  columns_nodup : (m.claims.map (·.column.id)).Nodup
  statuses_nodup : (m.claims.flatMap (·.statuses)).Nodup
  statuses_ne_nil : ∀ claim ∈ m.claims, claim.statuses ≠ []
  declares_fallback : m.Declares m.fallback

end ColumnMapping

/-! ## Builds -/

namespace MappingDraft

/-- Statuses that pass the check are new and differ from each other. -/
theorem claimStatuses_ok {seen statuses seen' : List String} (h : claimStatuses seen statuses = .ok seen') :
    statuses.Nodup ∧ (∀ s ∈ statuses, s ∉ seen) ∧ ∀ s, s ∈ seen' ↔ s ∈ statuses ∨ s ∈ seen := by
  -- Each status that passes is among those that the next one has to differ from.
  induction statuses generalizing seen with
  | nil =>
    cases h
    exact ⟨List.nodup_nil, fun s hs => (by cases hs), fun s => by simp⟩
  | cons s rest ih =>
    unfold claimStatuses at h
    split at h
    · cases h
    · rename_i hs
      obtain ⟨hnodup, hfresh, hseen⟩ := ih h
      refine ⟨List.nodup_cons.mpr ⟨?_, hnodup⟩, ?_, ?_⟩
      · intro hmem
        exact hfresh s hmem List.mem_cons_self
      · intro t ht
        rcases List.mem_cons.mp ht with rfl | ht
        · exact hs
        · intro htseen
          exact hfresh t ht (List.mem_cons_of_mem s htseen)
      · intro t
        rw [hseen, List.mem_cons, List.mem_cons]
        grind

/-- New statuses that differ from each other pass the check. -/
theorem claimStatuses_of_nodup {seen statuses : List String} (hnodup : statuses.Nodup)
    (hfresh : ∀ s ∈ statuses, s ∉ seen) : ∃ seen', claimStatuses seen statuses = .ok seen' := by
  induction statuses generalizing seen with
  | nil => exact ⟨seen, rfl⟩
  | cons s rest ih =>
    obtain ⟨hs, hrest⟩ := List.nodup_cons.mp hnodup
    obtain ⟨hsfresh, hfresh⟩ := List.forall_mem_cons.mp hfresh
    unfold claimStatuses
    rw [if_neg hsfresh]
    refine ih hrest fun t ht => ?_
    rintro (_ | ⟨_, htseen⟩)
    · exact hs ht
    · exact hfresh t ht htseen

/-- What the checks of the columns establish, in a draft where `ids` and `seen` are taken. -/
structure Checked (ids seen : List String) (claims : List ColumnClaim) : Prop where
  columns_nodup : (claims.map (·.column.id)).Nodup
  columns_fresh : ∀ claim ∈ claims, claim.column.id ∉ ids
  statuses_nodup : (claims.flatMap (·.statuses)).Nodup
  statuses_fresh : ∀ claim ∈ claims, ∀ s ∈ claim.statuses, s ∉ seen
  statuses_ne_nil : ∀ claim ∈ claims, claim.statuses ≠ []

theorem checked_of_checkClaims {ids seen : List String} {claims : List ColumnClaim}
    (h : checkClaims ids seen claims = .ok ()) : Checked ids seen claims := by
  induction claims generalizing ids seen with
  | nil => constructor <;> simp
  | cons claim rest ih =>
    unfold checkClaims at h
    obtain ⟨⟨⟩, hid, h⟩ := bind_eq_ok.mp h
    obtain ⟨⟨⟩, hstatuses, h⟩ := bind_eq_ok.mp h
    obtain ⟨seen', hseen', h⟩ := bind_eq_ok.mp h
    have hid : claim.column.id ∉ ids := of_decide_eq_true (ConfigError.ensure_eq_ok.mp hid)
    have hne : claim.statuses ≠ [] := by simpa using ConfigError.ensure_eq_ok.mp hstatuses
    obtain ⟨hnodup, hfresh, hmem⟩ := claimStatuses_ok hseen'
    obtain ⟨hcolumns, hcolumnsFresh, hstatuses, hstatusesFresh, hstatusesNe⟩ := ih h
    -- The rest is checked with the id and the statuses of this column taken, which keeps them apart.
    have hseen : ∀ {s}, s ∈ claim.statuses → s ∈ seen' := fun hs => (hmem _).mpr (.inl hs)
    constructor
    · rw [List.map_cons, List.nodup_cons]
      refine ⟨?_, hcolumns⟩
      intro hclaim
      obtain ⟨other, hother, hsame⟩ := List.mem_map.mp hclaim
      exact hcolumnsFresh other hother (hsame ▸ List.mem_cons_self)
    · intro other hother
      rcases List.mem_cons.mp hother with rfl | hother
      · exact hid
      · intro hids
        exact hcolumnsFresh other hother (List.mem_cons_of_mem _ hids)
    · rw [List.flatMap_cons, List.nodup_append]
      refine ⟨hnodup, hstatuses, ?_⟩
      rintro s hs t ht rfl
      obtain ⟨other, hother, hst⟩ := List.mem_flatMap.mp ht
      exact hstatusesFresh other hother s hst (hseen hs)
    · intro other hother s hs
      rcases List.mem_cons.mp hother with rfl | hother
      · exact hfresh s hs
      · intro hsseen
        exact hstatusesFresh other hother s hs ((hmem s).mpr (.inr hsseen))
    · intro other hother
      rcases List.mem_cons.mp hother with rfl | hother
      · exact hne
      · exact hstatusesNe other hother

/-- Nothing else is checked of the columns. -/
theorem checkClaims_of_checked {ids seen : List String} {claims : List ColumnClaim} (h : Checked ids seen claims) :
    checkClaims ids seen claims = .ok () := by
  induction claims generalizing ids seen with
  | nil => rfl
  | cons claim rest ih =>
    obtain ⟨hid, hids⟩ := List.nodup_cons.mp h.columns_nodup
    obtain ⟨hidFresh, hidsFresh⟩ := List.forall_mem_cons.mp h.columns_fresh
    have hstatuses := h.statuses_nodup
    rw [List.flatMap_cons, List.nodup_append] at hstatuses
    obtain ⟨hnodup, hrest, hapart⟩ := hstatuses
    obtain ⟨hfresh, hrestFresh⟩ := List.forall_mem_cons.mp h.statuses_fresh
    obtain ⟨hne, hrestNe⟩ := List.forall_mem_cons.mp h.statuses_ne_nil
    obtain ⟨seen', hseen'⟩ := claimStatuses_of_nodup hnodup hfresh
    obtain ⟨-, -, hmem⟩ := claimStatuses_ok hseen'
    have hchecked : Checked (claim.column.id :: ids) seen' rest := by
      refine ⟨hids, fun other hother => ?_, hrest, fun other hother s hs => ?_, hrestNe⟩
      · rw [List.mem_cons, not_or]
        refine ⟨fun hsame => ?_, hidsFresh other hother⟩
        exact hid (List.mem_map.mpr ⟨other, hother, hsame⟩)
      · rw [hmem]
        rintro (hsclaim | hsseen)
        · exact hapart s hsclaim s (List.mem_flatMap.mpr ⟨other, hother, hs⟩) rfl
        · exact hrestFresh other hother s hs hsseen
    unfold checkClaims
    refine bind_eq_ok.mpr ⟨(), ConfigError.ensure_eq_ok.mpr (decide_eq_true hidFresh), ?_⟩
    refine bind_eq_ok.mpr ⟨(), ConfigError.ensure_eq_ok.mpr (by simpa using hne), ?_⟩
    exact bind_eq_ok.mpr ⟨seen', hseen', ih hchecked⟩

/-- The fallback is the given column, which has to be there, or else the first one. -/
theorem fallbackColumn_eq_ok {claims : List ColumnClaim} {first : ColumnClaim} {given : Option String}
    {fallback : String} : fallbackColumn first claims given = .ok fallback ↔
      fallback = given.getD first.column.id ∧ ∀ id, given = some id → id ∈ claims.map (·.column.id) := by
  unfold fallbackColumn
  cases given with
  | none => simp [eq_comm]
  | some id =>
    have hany : claims.any (·.column.id == id) = true ↔ id ∈ claims.map (·.column.id) := by simp
    simp only [Option.getD_some, Option.some.injEq, forall_eq', ← hany]
    cases claims.any (·.column.id == id) <;> simp [eq_comm]

/-- What is checked of a draft, and what is made of it. -/
theorem build_eq_ok {d : MappingDraft} {m : ColumnMapping} :
    d.build = .ok m ↔ ∃ first, d.claims.head? = some first ∧ Checked [] [] d.claims ∧
      (∀ id, d.fallback = some id → id ∈ d.claims.map (·.column.id)) ∧
      m = { claims := d.claims, fallback := d.fallback.getD first.column.id, hidden := d.hidden } := by
  unfold build
  constructor
  · intro h
    obtain ⟨first, hfirst, h⟩ := bind_eq_ok.mp h
    obtain ⟨⟨⟩, hchecks, h⟩ := bind_eq_ok.mp h
    obtain ⟨fallback, hfallback, h⟩ := bind_eq_ok.mp h
    obtain ⟨rfl, hgiven⟩ := fallbackColumn_eq_ok.mp hfallback
    cases h
    exact ⟨first, ConfigError.require_eq_ok.mp hfirst, checked_of_checkClaims hchecks, hgiven, rfl⟩
  · rintro ⟨first, hfirst, hchecked, hgiven, rfl⟩
    refine bind_eq_ok.mpr ⟨first, ConfigError.require_eq_ok.mpr hfirst, ?_⟩
    refine bind_eq_ok.mpr ⟨(), checkClaims_of_checked hchecked, ?_⟩
    exact bind_eq_ok.mpr ⟨_, fallbackColumn_eq_ok.mpr ⟨rfl, hgiven⟩, rfl⟩

/-- A build keeps the columns as they were declared. -/
theorem claims_of_build {d : MappingDraft} {m : ColumnMapping} (h : d.build = .ok m) : m.claims = d.claims := by
  obtain ⟨first, -, -, -, rfl⟩ := build_eq_ok.mp h
  rfl

/-- A mapping that was built is well-formed. -/
theorem wellFormed_of_build {d : MappingDraft} {m : ColumnMapping} (h : d.build = .ok m) : m.WellFormed := by
  obtain ⟨first, hfirst, hchecked, hgiven, rfl⟩ := build_eq_ok.mp h
  refine ⟨hchecked.columns_nodup, hchecked.statuses_nodup, hchecked.statuses_ne_nil, ?_⟩
  cases hfallback : d.fallback with
  | none => exact List.mem_map_of_mem (List.mem_of_head? hfirst)
  | some id => exact hgiven id hfallback

end MappingDraft

/-! ## Statuses and columns -/

namespace ColumnMapping

variable {m : ColumnMapping} {column status : String}

theorem declares_columnOf (h : m.WellFormed) (status : String) : m.Declares (m.columnOf status) := by
  unfold columnOf
  split
  · rename_i claim hclaim
    exact List.mem_map.mpr ⟨claim, List.mem_of_find?_eq_some hclaim, rfl⟩
  · exact h.declares_fallback

/-- Every column has a status for what is dropped on it, and nothing else has one. -/
theorem dropStatus?_isSome_iff (h : m.WellFormed) : (m.dropStatus? column).isSome ↔ m.Declares column := by
  unfold dropStatus? Declares
  rw [List.mem_map]
  constructor
  · intro hsome
    obtain ⟨status, hstatus⟩ := Option.isSome_iff_exists.mp hsome
    obtain ⟨claim, hfind, -⟩ := Option.bind_eq_some_iff.mp hstatus
    exact ⟨claim, List.mem_of_find?_eq_some hfind, by simpa using List.find?_some hfind⟩
  · rintro ⟨claim, hclaim, rfl⟩
    cases hfind : m.claims.find? (·.column.id == claim.column.id) with
    | none => exact absurd (List.find?_eq_none.mp hfind claim hclaim) (by simp)
    | some found =>
      have hne := h.statuses_ne_nil found (List.mem_of_find?_eq_some hfind)
      simpa using hne

/-- A status is claimed once. -/
theorem eq_of_mem_statuses {claims : List ColumnClaim} (h : (claims.flatMap (·.statuses)).Nodup)
    {claim other : ColumnClaim} (hclaim : claim ∈ claims) (hother : other ∈ claims)
    (hstatus : status ∈ claim.statuses) (hstatus' : status ∈ other.statuses) : claim = other := by
  induction claims with
  | nil => cases hclaim
  | cons first rest ih =>
    rw [List.flatMap_cons, List.nodup_append] at h
    obtain ⟨-, hrest, hdisjoint⟩ := h
    -- A status of the first claim is in none of the rest.
    have hapart {c d : ColumnClaim} (hc : status ∈ c.statuses) (hd : d ∈ rest) (hst : status ∈ d.statuses) :
        first = c → claim = other := by
      rintro rfl
      exact absurd rfl (hdisjoint status hc status (List.mem_flatMap.mpr ⟨d, hd, hst⟩))
    rcases List.mem_cons.mp hclaim with hfirst | hclaim'
    · rcases List.mem_cons.mp hother with hfirst' | hother'
      · rw [hfirst, hfirst']
      · exact hapart hstatus hother' hstatus' hfirst.symm
    · rcases List.mem_cons.mp hother with hfirst' | hother'
      · exact hapart hstatus' hclaim' hstatus hfirst'.symm
      · exact ih hrest hclaim' hother'

/-- A status that a column claims belongs to that column. -/
theorem columnOf_of_mem (h : m.WellFormed) {claim : ColumnClaim} (hclaim : claim ∈ m.claims)
    (hstatus : status ∈ claim.statuses) : m.columnOf status = claim.column.id := by
  unfold columnOf
  cases hfind : m.claims.find? (·.statuses.contains status) with
  | none => exact absurd (List.find?_eq_none.mp hfind claim hclaim) (by simpa using hstatus)
  | some found =>
    have hfound : status ∈ found.statuses := by simpa using List.find?_some hfind
    rw [eq_of_mem_statuses h.statuses_nodup (List.mem_of_find?_eq_some hfind) hclaim hfound hstatus]

/-- What is dropped on a column belongs to it. -/
theorem columnOf_of_dropStatus? (h : m.WellFormed) (hstatus : m.dropStatus? column = some status) :
    m.columnOf status = column := by
  obtain ⟨claim, hfind, hhead⟩ := Option.bind_eq_some_iff.mp hstatus
  have hid : claim.column.id = column := by simpa using List.find?_some hfind
  rw [← hid]
  exact columnOf_of_mem h (List.mem_of_find?_eq_some hfind) (List.mem_of_head? hhead)

/-- A status that no column claims belongs to the fallback. -/
theorem columnOf_of_forall_not_mem (h : ∀ claim ∈ m.claims, status ∉ claim.statuses) :
    m.columnOf status = m.fallback := by
  have hnone : m.claims.find? (·.statuses.contains status) = none := by
    rw [List.find?_eq_none]
    intro claim hclaim
    simpa using h claim hclaim
  unfold columnOf
  rw [hnone]

end ColumnMapping

/-! ## The laws -/

namespace MappingDraft

/-- A draft that can be built. -/
structure Sound (d : MappingDraft) : Prop where
  claims_ne_nil : d.claims ≠ []
  columns_nodup : (d.claims.map (·.column.id)).Nodup
  statuses_ne_nil : ∀ claim ∈ d.claims, claim.statuses ≠ []
  /-- No status is listed twice, in one column or in two. -/
  statuses_nodup : (d.claims.flatMap (·.statuses)).Nodup
  declares_fallback : ∀ id, d.fallback = some id → id ∈ d.claims.map (·.column.id)

theorem exists_build_iff {d : MappingDraft} : (∃ m, d.build = .ok m) ↔ d.Sound := by
  constructor
  · rintro ⟨m, h⟩
    obtain ⟨first, hfirst, hchecked, hgiven, -⟩ := build_eq_ok.mp h
    refine ⟨fun hnil => ?_, hchecked.columns_nodup, hchecked.statuses_ne_nil, hchecked.statuses_nodup, hgiven⟩
    rw [hnil] at hfirst
    cases hfirst
  · intro h
    refine ⟨_, build_eq_ok.mpr ⟨d.claims.head h.claims_ne_nil, List.head?_eq_some_head _, ?_, h.declares_fallback, rfl⟩⟩
    exact ⟨h.columns_nodup, fun _ _ => List.not_mem_nil, h.statuses_nodup, fun _ _ _ _ => List.not_mem_nil,
      h.statuses_ne_nil⟩

/-- A draft is built if and only if it is sound. What is built has the columns of the draft. Each status belongs to one
of them: to the one that claims it or else to the fallback, which is the given column or the first one. Just these
columns have a status for what is dropped on them, and it belongs to the column. -/
theorem build_laws (d : MappingDraft) :
    ((∃ m, d.build = .ok m) ↔ d.Sound) ∧
    ∀ m, d.build = .ok m →
      m.columns = d.claims.map (·.column) ∧
      (∀ status, m.columnOf status ∈ m.columns.map (·.id)) ∧
      (∀ claim ∈ d.claims, ∀ status ∈ claim.statuses, m.columnOf status = claim.column.id) ∧
      (∀ status, (∀ claim ∈ d.claims, status ∉ claim.statuses) →
        some (m.columnOf status) = d.fallback.or (d.claims.head?.map (·.column.id))) ∧
      (∀ column, (m.dropStatus? column).isSome ↔ column ∈ m.columns.map (·.id)) ∧
      ∀ column ∈ m.columns.map (·.id), ∃ status, m.dropStatus? column = some status ∧ m.columnOf status = column := by
  refine ⟨exists_build_iff, fun m hbuild => ?_⟩
  have hwf := wellFormed_of_build hbuild
  have hclaims := claims_of_build hbuild
  have hcolumns {column : String} : column ∈ m.columns.map (·.id) ↔ m.Declares column := by
    unfold ColumnMapping.columns ColumnMapping.Declares
    rw [List.map_map]
    rfl
  have hdrop (column : String) : (m.dropStatus? column).isSome ↔ column ∈ m.columns.map (·.id) := by
    rw [hcolumns, ColumnMapping.dropStatus?_isSome_iff hwf]
  refine ⟨?_, ?_, ?_, ?_, hdrop, ?_⟩
  · unfold ColumnMapping.columns
    rw [hclaims]
  · intro status
    exact hcolumns.mpr (ColumnMapping.declares_columnOf hwf status)
  · intro claim hclaim status hstatus
    exact ColumnMapping.columnOf_of_mem hwf (hclaims ▸ hclaim) hstatus
  · intro status hunclaimed
    obtain ⟨first, hfirst, -, -, rfl⟩ := build_eq_ok.mp hbuild
    rw [ColumnMapping.columnOf_of_forall_not_mem hunclaimed, hfirst]
    cases d.fallback <;> rfl
  · intro column hcolumn
    obtain ⟨status, hstatus⟩ := Option.isSome_iff_exists.mp ((hdrop column).mpr hcolumn)
    exact ⟨status, hstatus, ColumnMapping.columnOf_of_dropStatus? hwf hstatus⟩

/-- Three columns, of which one is for both rounds of interviews and the last one for all that has no known status. -/
def pipeline : MappingDraft :=
  let d : MappingDraft := { fallback := some "other", hidden := ["rejected"] }
  ((d.column "sourced" "Sourced" ["sourced", "new"]).column "interviewing" "Interviewing" ["first", "second"]).column
    "other" "Other" ["unknown"]

/-- A status that is claimed second, one that is not claimed, and the way to a column and back. -/
theorem build_laws_pipeline : pipeline.Sound ∧ ∃ m, pipeline.build = .ok m ∧
    m.columnOf "second" = "interviewing" ∧ m.columnOf "lost" = "other" ∧
    ∃ status, m.dropStatus? "interviewing" = some status ∧ m.columnOf status = "interviewing" := by
  obtain ⟨hsound, hlaws⟩ := build_laws pipeline
  obtain ⟨m, hbuild⟩ : ∃ m, pipeline.build = .ok m := ⟨_, rfl⟩
  obtain ⟨hcolumns, -, hclaimed, hunclaimed, -, hback⟩ := hlaws m hbuild
  have hinterviewing : pipeline.claims[1] ∈ pipeline.claims := List.getElem_mem _
  refine ⟨hsound.mp ⟨m, hbuild⟩, m, hbuild, ?_, ?_, ?_⟩
  · exact hclaimed _ hinterviewing "second" (by decide)
  · exact Option.some.inj (hunclaimed "lost" (by decide))
  · refine hback "interviewing" ?_
    rw [hcolumns]
    decide

end MappingDraft

end RecordScreens
