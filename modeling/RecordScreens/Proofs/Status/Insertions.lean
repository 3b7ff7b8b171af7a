import Mathlib.Data.List.Forall2
import Mathlib.Data.List.Induction
import RecordScreens.Proofs.Positions
import RecordScreens.Status.Table

/-!
# Insertions into a status table

A table stands for what was inserted into it: its statuses are in the order in which they were first
inserted, and each is shown as its last insertion says.
-/

namespace RecordScreens.StatusTable

variable {t : StatusTable} {entries : List (String × StatusConfig)} {status other : String} {config c : StatusConfig}

/-- The status was inserted with this config, and not again after that. -/
def InsertedLast (entries : List (String × StatusConfig)) (status : String) (config : StatusConfig) : Prop :=
  ∃ earlier later, entries = earlier ++ (status, config) :: later ∧ status ∉ later.map (·.1)

/-- One status was first inserted before the other one. -/
def FirstBefore (entries : List (String × StatusConfig)) (status other : String) : Prop :=
  (entries.map (·.1)).idxOf status < (entries.map (·.1)).idxOf other

theorem InsertedLast.mem (h : InsertedLast entries status config) : status ∈ entries.map (·.1) := by
  obtain ⟨earlier, later, rfl, -⟩ := h
  exact List.mem_map.mpr ⟨(status, config), by simp, rfl⟩

theorem insertedLast_concat (entries : List (String × StatusConfig)) (status : String) (config : StatusConfig) :
    InsertedLast (entries ++ [(status, config)]) status config :=
  ⟨entries, [], rfl, nofun⟩

theorem InsertedLast.eq_of_concat (h : InsertedLast (entries ++ [(status, config)]) status c) : c = config := by
  obtain ⟨earlier, later, hsplit, hlater⟩ := h
  rcases append_eq_append_cons hsplit with ⟨rest, -, rfl⟩ | ⟨rest, -, hlast⟩
  · simp at hlater
  · obtain ⟨-, hentry, -⟩ := singleton_eq_append_cons hlast
    cases hentry
    rfl

/-- After one more insertion, the other statuses were last inserted as before. -/
theorem insertedLast_concat_of_ne (h : status ≠ other) :
    InsertedLast (entries ++ [(status, config)]) other c ↔ InsertedLast entries other c := by
  constructor
  · rintro ⟨earlier, later, hsplit, hlater⟩
    rcases append_eq_append_cons hsplit with ⟨rest, rfl, rfl⟩ | ⟨rest, rfl, hlast⟩
    · rw [List.map_append, List.mem_append, not_or] at hlater
      exact ⟨earlier, rest, rfl, hlater.1⟩
    · obtain ⟨-, hsame, -⟩ := singleton_eq_append_cons hlast
      exact absurd (congrArg (·.1) hsame) h
  · rintro ⟨earlier, later, rfl, hlater⟩
    refine ⟨earlier, later ++ [(status, config)], by simp, ?_⟩
    rw [List.map_append, List.mem_append, not_or]
    exact ⟨hlater, by simpa using h.symm⟩

/-! ## One insertion -/

theorem keys_insertEntry (status : String) (config : StatusConfig) (entries : List (String × StatusConfig)) :
    (insertEntry status config entries).map (·.1) =
      if status ∈ entries.map (·.1) then entries.map (·.1) else entries.map (·.1) ++ [status] := by
  induction entries with
  | nil => rfl
  | cons entry rest ih =>
    obtain ⟨s, old⟩ := entry
    by_cases hs : s = status
    · simp [insertEntry, hs]
    · rw [insertEntry, if_neg hs, List.map_cons, ih]
      by_cases hrest : status ∈ rest.map (·.1) <;> simp [hrest, Ne.symm hs]

theorem find?_insertEntry (status other : String) (config : StatusConfig) (entries : List (String × StatusConfig)) :
    (insertEntry status config entries).find? (·.1 == other) =
      if status = other then some (status, config) else entries.find? (·.1 == other) := by
  induction entries with
  | nil => by_cases hother : status = other <;> simp [insertEntry, hother]
  | cons entry rest ih =>
    obtain ⟨s, old⟩ := entry
    by_cases hs : s = status
    · by_cases hother : status = other <;> simp [insertEntry, hs, hother]
    · rw [insertEntry, if_neg hs, List.find?_cons, List.find?_cons, ih]
      by_cases hother : s = other
      · simp [hother, Ne.symm (hother ▸ hs)]
      · simp only [beq_eq_false_iff_ne.mpr hother]

/-- A status that is new comes last, and no other one moves. -/
theorem statuses_insert (t : StatusTable) (status : String) (config : StatusConfig) :
    (t.insert status config).statuses = if status ∈ t.statuses then t.statuses else t.statuses ++ [status] :=
  keys_insertEntry status config t.entries

theorem mem_statuses_insert (t : StatusTable) (status other : String) (config : StatusConfig) :
    other ∈ (t.insert status config).statuses ↔ other ∈ t.statuses ∨ other = status := by
  rw [statuses_insert]
  split
  · rename_i hold
    exact ⟨.inl, fun h => h.elim id fun hsame => hsame ▸ hold⟩
  · rw [List.mem_append, List.mem_singleton]

theorem get?_insert (t : StatusTable) (status other : String) (config : StatusConfig) :
    (t.insert status config).get? other = if status = other then some config else t.get? other := by
  unfold get? insert
  rw [find?_insertEntry]
  split <;> rfl

/-! ## All insertions -/

/-- A table that holds what was inserted, in order. -/
structure Holds (entries : List (String × StatusConfig)) (t : StatusTable) : Prop where
  mem_statuses : ∀ status, status ∈ t.statuses ↔ status ∈ entries.map (·.1)
  ordered : t.statuses.Pairwise (FirstBefore entries)
  get?_iff : ∀ status config, t.get? status = some config ↔ InsertedLast entries status config

theorem holds_empty : Holds [] {} := by
  refine ⟨fun _ => Iff.rfl, .nil, fun status config => ⟨nofun, ?_⟩⟩
  rintro ⟨earlier, later, hsplit, -⟩
  simp at hsplit

/-- Where statuses stood before one more insertion, they stand after it. -/
theorem FirstBefore.concat (hstatus : status ∈ entries.map (·.1)) (entry : String × StatusConfig)
    (h : FirstBefore entries status other ∨ other ∉ entries.map (·.1)) :
    FirstBefore (entries ++ [entry]) status other := by
  unfold FirstBefore
  rw [List.map_append, List.idxOf_append_of_mem hstatus]
  have hlt : (entries.map (·.1)).idxOf status < (entries.map (·.1)).length := List.idxOf_lt_length_iff.mpr hstatus
  by_cases hother : other ∈ entries.map (·.1)
  · rw [List.idxOf_append_of_mem hother]
    exact h.resolve_right (not_not_intro hother)
  · rw [List.idxOf_append_of_notMem hother]
    omega

/-- One more insertion. -/
theorem Holds.insert (h : t.Holds entries) (status : String) (config : StatusConfig) :
    (t.insert status config).Holds (entries ++ [(status, config)]) := by
  have hkept : t.statuses.Pairwise (FirstBefore (entries ++ [(status, config)])) :=
    h.ordered.imp_of_mem fun ha _ hbefore => .concat ((h.mem_statuses _).mp ha) _ (.inl hbefore)
  refine ⟨fun other => ?_, ?_, fun other c => ?_⟩
  · rw [mem_statuses_insert, h.mem_statuses, List.map_append, List.mem_append, List.map_singleton, List.mem_singleton]
  · rw [statuses_insert]
    split
    · exact hkept
    · rename_i hnew
      refine List.pairwise_append.mpr ⟨hkept, List.pairwise_singleton _ _, fun earlier hearlier last hlast => ?_⟩
      obtain rfl := List.mem_singleton.mp hlast
      exact .concat ((h.mem_statuses _).mp hearlier) _ (.inr fun hmem => hnew ((h.mem_statuses _).mpr hmem))
  · rw [get?_insert]
    split
    · rename_i hsame
      subst hsame
      constructor
      · rintro ⟨⟩
        exact insertedLast_concat entries status config
      · exact fun hlast => congrArg some hlast.eq_of_concat.symm
    · rename_i hne
      rw [h.get?_iff, insertedLast_concat_of_ne hne]

theorem holds_ofList (entries : List (String × StatusConfig)) : (ofList entries).Holds entries := by
  induction entries using List.reverseRecOn with
  | nil => exact holds_empty
  | append_singleton entries entry ih =>
    rw [ofList, List.foldl_concat]
    exact ih.insert entry.1 entry.2

theorem Holds.nodup (h : t.Holds entries) : t.statuses.Nodup :=
  h.ordered.imp fun hbefore heq => by simp [FirstBefore, heq] at hbefore

theorem Holds.insertedLast_of_mem (h : t.Holds entries) {entry : String × StatusConfig} (hentry : entry ∈ t.entries) :
    InsertedLast entries entry.1 entry.2 := by
  have hfind := (find?_key_eq_some_iff h.nodup).mpr ⟨hentry, rfl⟩
  refine (h.get?_iff entry.1 entry.2).mp ?_
  unfold get?
  rw [hfind]
  rfl

theorem Holds.resolve_of_inserted (h : t.Holds entries) (hlast : InsertedLast entries status config) :
    t.resolve status =
      { value := status, label := config.label, color := config.color, icon := config.icon, known := true } := by
  unfold resolve
  rw [(h.get?_iff status config).mpr hlast]

theorem Holds.resolve_of_not_inserted (h : t.Holds entries) (hnew : status ∉ entries.map (·.1)) :
    t.resolve status = { value := status, label := status, color := neutralColor, icon := none, known := false } := by
  have hnone : t.get? status = none := Option.eq_none_iff_forall_ne_some.mpr fun config hget =>
    hnew ((h.get?_iff status config).mp hget).mem
  unfold resolve
  rw [hnone]

theorem Holds.known_iff (h : t.Holds entries) (status : String) :
    (t.resolve status).known = true ↔ status ∈ entries.map (·.1) := by
  constructor
  · intro hknown
    by_contra hnew
    rw [h.resolve_of_not_inserted hnew] at hknown
    cases hknown
  · intro hmem
    obtain ⟨entry, hentry, rfl⟩ := List.mem_map.mp ((h.mem_statuses status).mpr hmem)
    rw [h.resolve_of_inserted (h.insertedLast_of_mem hentry)]

/-- An option for each status, labelled as its last insertion says. -/
def OptionFor (entries : List (String × StatusConfig)) (status : String) (option : FilterOption) : Prop :=
  ∃ config, InsertedLast entries status config ∧ option = ⟨status, config.label⟩

theorem Holds.options (h : t.Holds entries) (allLabel : String) :
    ∃ options, t.filterOptions allLabel = ⟨allOption, allLabel⟩ :: options ∧
      List.Forall₂ (OptionFor entries) t.statuses options := by
  refine ⟨_, rfl, ?_⟩
  unfold statuses
  rw [List.forall₂_map_left_iff, List.forall₂_map_right_iff, List.forall₂_same]
  exact fun entry hentry => ⟨entry.2, h.insertedLast_of_mem hentry, rfl⟩

/-- A table lists each inserted status once, in the order of the first insertions, and finds what was inserted last for
it. A status is known if and only if it was inserted, and is then shown as its last insertion says; any other one is
shown as it is, in the neutral color and without an icon. The options of a filter are one for all statuses, and then one
for each of them in the same order. -/
theorem inserted_in_order (entries : List (String × StatusConfig)) :
    let t := ofList entries
    (t.statuses.Nodup ∧ (∀ status, status ∈ t.statuses ↔ status ∈ entries.map (·.1)) ∧
      t.statuses.Pairwise (FirstBefore entries)) ∧
    (∀ status config, t.get? status = some config ↔ InsertedLast entries status config) ∧
    (∀ status, ((t.resolve status).known = true ↔ status ∈ entries.map (·.1)) ∧
      (∀ config, InsertedLast entries status config → t.resolve status =
        { value := status, label := config.label, color := config.color, icon := config.icon, known := true }) ∧
      (status ∉ entries.map (·.1) → t.resolve status =
        { value := status, label := status, color := neutralColor, icon := none, known := false })) ∧
    ∀ allLabel, ∃ options, t.filterOptions allLabel = ⟨allOption, allLabel⟩ :: options ∧
      List.Forall₂ (OptionFor entries) t.statuses options := by
  intro t
  have h : t.Holds entries := holds_ofList entries
  exact ⟨⟨h.nodup, h.mem_statuses, h.ordered⟩, h.get?_iff,
    fun status => ⟨h.known_iff status, fun _ => h.resolve_of_inserted, h.resolve_of_not_inserted⟩, h.options⟩

/-- The first status is inserted again, with another label: it keeps its place. -/
theorem inserted_in_order_relabelled :
    let live : StatusConfig := { label := "Live", color := "blue", icon := some "bolt" }
    let entries := [("active", { live with label := "Active" }), ("idle", { label := "Idle", color := "grey" }),
      ("active", live)]
    let t := ofList entries
    t.statuses = ["active", "idle"] ∧ t.statuses.Nodup ∧ t.statuses.Pairwise (FirstBefore entries) ∧
      InsertedLast entries "active" live ∧ t.get? "active" = some live ∧
      t.resolve "active" = { value := "active", label := "Live", color := "blue", icon := some "bolt", known := true } ∧
      "gone" ∉ entries.map (·.1) ∧
      t.resolve "gone" = { value := "gone", label := "gone", color := neutralColor, icon := none, known := false } ∧
      ∃ options, t.filterOptions "All" = ⟨allOption, "All"⟩ :: options ∧
        List.Forall₂ (OptionFor entries) t.statuses options := by
  intro live entries t
  obtain ⟨⟨hnodup, -, hordered⟩, hget, hresolve, hoptions⟩ := inserted_in_order entries
  have hlast : InsertedLast entries "active" live := insertedLast_concat (entries.take 2) "active" live
  have hgone : "gone" ∉ entries.map (·.1) := by decide
  obtain ⟨-, hknown, -⟩ := hresolve "active"
  obtain ⟨-, -, hunknown⟩ := hresolve "gone"
  exact ⟨by decide, hnodup, hordered, hlast, (hget _ _).mpr hlast, hknown live hlast, hgone, hunknown hgone,
    hoptions "All"⟩

end RecordScreens.StatusTable
