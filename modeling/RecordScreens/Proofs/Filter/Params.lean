import RecordScreens.Filter.Values
import RecordScreens.Proofs.Dict
import RecordScreens.Proofs.Text.Blank

/-!
# Parameters key by key

The parameter of a key comes of the filter with this key and of the value that was entered for it, and of nothing else:
neither the order of the filters nor what was entered for other keys has a part in it.
-/

namespace RecordScreens

/-! ## Values that narrow a list -/

/-- The parameter that a value makes. A blank text, no choice, the option for all, a switch that is off and a value of
another kind make none. -/
inductive FilterKind.Makes : FilterKind → FilterValue → Json → Prop where
  | search {s t : String} (htrims : Text.Trims s t) (ht : t ≠ "") : Makes .search (.text s) (.string t)
  | select {s : String} (hempty : s ≠ "") (hall : s ≠ allOption) : Makes .select (.text s) (.string s)
  | toggle : Makes .toggle (.flag true) (.bool true)
  /-- The options in the order and as often as they were chosen. -/
  | multiSelect {values : List String} (hchosen : ∃ s ∈ values, s ≠ allOption) :
    Makes .multiSelect (.many values) (.array ((values.filter (· ≠ allOption)).map .string))

theorem FilterKind.Makes.eq {kind : FilterKind} {value : FilterValue} {v : Json} (h : kind.Makes value v) :
    kind.param? value = some v := by
  cases h with
  | search htrims ht => simp [param?, htrims.eq, ht]
  | select hempty hall => simp [param?, hempty, hall]
  | toggle => rfl
  | @multiSelect values hchosen =>
    have hsome : values.filter (· ≠ allOption) ≠ [] := by simpa using hchosen
    simp only [param?, if_neg hsome, Json.strings]

theorem FilterKind.makes_of_param? {kind : FilterKind} {value : FilterValue} {v : Json}
    (h : kind.param? value = some v) : kind.Makes value v := by
  cases kind with
  | search =>
    cases value with
    | text s =>
      obtain ⟨ht, hv⟩ := Option.ite_none_left_eq_some.mp h
      cases hv
      exact .search (Text.trims_trim s) ht
    | _ => cases h
  | select =>
    cases value with
    | text s =>
      obtain ⟨hs, hv⟩ := Option.ite_none_left_eq_some.mp h
      cases hv
      exact .select (not_or.mp hs).1 (not_or.mp hs).2
    | _ => cases h
  | toggle =>
    cases value with
    | flag on =>
      cases on with
      | true =>
        cases h
        exact .toggle
      | false => cases h
    | _ => cases h
  | multiSelect =>
    cases value with
    | many values =>
      obtain ⟨hchosen, hv⟩ := Option.ite_none_left_eq_some.mp h
      cases hv
      exact .multiSelect (by simpa using hchosen)
    | _ => cases h

namespace FilterSpec

variable {filters : List FilterSpec} {values : FilterValues}

theorem param?_eq_some_iff {f : FilterSpec} {v : Json} :
    f.param? values = some v ↔ ∃ value, Dict.get? values f.key = some value ∧ f.kind.Makes value v := by
  rw [param?, Option.bind_eq_some_iff]
  exact exists_congr fun value => and_congr_right fun _ => ⟨FilterKind.makes_of_param?, FilterKind.Makes.eq⟩

/-! ## All filters together -/

/-- The parameters in the order of the filters. -/
def entries (filters : List FilterSpec) (values : FilterValues) : List (String × Json) :=
  filters.filterMap fun f => (f.param? values).map fun v => (f.key, v)

theorem buildParams_eq (filters : List FilterSpec) (values : FilterValues) :
    buildParams filters values = Dict.ofList (entries filters values) := by
  unfold buildParams Dict.ofList entries
  rw [List.foldl_filterMap]
  congr
  funext params f
  cases f.param? values <;> rfl

theorem mem_entries_iff {key : String} {v : Json} :
    (key, v) ∈ entries filters values ↔ ∃ f ∈ filters, f.key = key ∧ f.param? values = some v := by
  simp only [entries, List.mem_filterMap, Option.map_eq_some_iff, Prod.mk.injEq]
  grind

theorem keys_entries_sublist : ((entries filters values).map (·.1)).Sublist (filters.map (·.key)) := by
  induction filters with
  | nil => exact .slnil
  | cons f rest ih =>
    unfold entries
    cases hparam : f.param? values with
    | none =>
      rw [List.filterMap_cons_none (by rw [hparam]; rfl)]
      exact ih.cons _
    | some v =>
      rw [List.filterMap_cons_some (by rw [hparam]; rfl)]
      exact ih.cons_cons _

/-- Only keys of filters become keys of parameters. -/
theorem mem_map_key_of_buildParams {key : String} (h : key ∈ Dict.keys (buildParams filters values)) :
    key ∈ filters.map (·.key) := by
  rw [buildParams_eq, Dict.mem_keys_ofList] at h
  exact keys_entries_sublist.subset h

theorem sorted_buildParams : Dict.Sorted (buildParams filters values) :=
  buildParams_eq filters values ▸ Dict.sorted_ofList _

section

variable (hkeys : (filters.map (·.key)).Nodup)

include hkeys

theorem buildParams_perm_entries : (buildParams filters values).Perm (entries filters values) :=
  buildParams_eq filters values ▸ Dict.ofList_perm (hkeys.sublist keys_entries_sublist)

theorem get?_buildParams {key : String} {v : Json} :
    Dict.get? (buildParams filters values) key = some v ↔ ∃ f ∈ filters, f.key = key ∧ f.param? values = some v := by
  rw [Dict.get?_eq_some_iff (Dict.nodup_keys sorted_buildParams), (buildParams_perm_entries hkeys).mem_iff,
    mem_entries_iff]

theorem buildParams_eq_of_perm {filters' : List FilterSpec} (hperm : filters'.Perm filters) :
    buildParams filters' values = buildParams filters values := by
  have hkeys' : (filters'.map (·.key)).Nodup := (hperm.map _).nodup_iff.mpr hkeys
  have hentries : (entries filters' values).Perm (entries filters values) := hperm.filterMap _
  have hparams : (buildParams filters' values).Perm (buildParams filters values) :=
    (buildParams_perm_entries hkeys').trans (hentries.trans (buildParams_perm_entries hkeys).symm)
  exact Dict.eq_of_perm hparams sorted_buildParams sorted_buildParams

/-- What was entered for other keys has no part in the parameter of a key. -/
theorem get?_buildParams_congr {values' : FilterValues} {key : String}
    (h : Dict.get? values' key = Dict.get? values key) :
    Dict.get? (buildParams filters values') key = Dict.get? (buildParams filters values) key := by
  refine Option.ext fun v => ?_
  rw [get?_buildParams hkeys, get?_buildParams hkeys]
  refine exists_congr fun f => and_congr_right fun _ => and_congr_right fun hf => ?_
  rw [param?, param?, hf, h]

/-- Under keys of their own, the parameters of the filters stand side by side. -/
theorem all_buildParams (p : String × Json → Bool) :
    (buildParams filters values).all p = filters.all fun f => (f.param? values).all fun v => p (f.key, v) := by
  rw [(buildParams_perm_entries hkeys).all_eq, entries, List.all_filterMap]
  refine List.all_congr rfl fun f => ?_
  cases f.param? values <;> rfl

end

theorem anyActive_iff : anyActive filters values = true ↔ ∃ f ∈ filters, ∃ v, f.param? values = some v := by
  have hempty : buildParams filters values = [] ↔ ∀ f ∈ filters, f.param? values = none := by
    have hkeys : Dict.keys (buildParams filters values) = [] ↔ (entries filters values).map (·.1) = [] := by
      simp only [List.eq_nil_iff_forall_not_mem, buildParams_eq, Dict.mem_keys_ofList]
    rw [Dict.keys, List.map_eq_nil_iff, List.map_eq_nil_iff, entries, List.filterMap_eq_nil_iff] at hkeys
    simpa using hkeys
  rw [anyActive, Bool.not_eq_true', List.isEmpty_eq_false_iff, Ne, hempty]
  simp [Option.ne_none_iff_exists']

/-! ## The law -/

/-- The parameter of a key is what the value entered for it makes for its filter, if it makes one. So the order of the
filters does not matter, a change of the value of one key changes the parameter of no other one, and there are
parameters just if some value makes one. -/
theorem params_per_key (hkeys : (filters.map (·.key)).Nodup) (values : FilterValues) :
    Dict.Sorted (buildParams filters values) ∧
    (∀ key v, Dict.get? (buildParams filters values) key = some v ↔
      ∃ f ∈ filters, f.key = key ∧ ∃ value, Dict.get? values key = some value ∧ f.kind.Makes value v) ∧
    (∀ filters' : List FilterSpec, filters'.Perm filters →
      buildParams filters' values = buildParams filters values) ∧
    (∀ key (values' : FilterValues), (∀ other, other ≠ key → Dict.get? values' other = Dict.get? values other) →
      ∀ other, other ≠ key →
        Dict.get? (buildParams filters values') other = Dict.get? (buildParams filters values) other) ∧
    (anyActive filters values = true ↔
      ∃ f ∈ filters, ∃ value v, Dict.get? values f.key = some value ∧ f.kind.Makes value v) := by
  refine ⟨sorted_buildParams, fun key v => ?_, fun _ => buildParams_eq_of_perm hkeys,
    fun key values' h other hother => get?_buildParams_congr hkeys (h other hother), ?_⟩
  · rw [get?_buildParams hkeys]
    refine exists_congr fun f => and_congr_right fun _ => and_congr_right fun hf => ?_
    rw [param?_eq_some_iff, hf]
  · rw [anyActive_iff]
    refine exists_congr fun f => and_congr_right fun _ => ?_
    simp only [param?_eq_some_iff]
    exact exists_comm

/-- A filter of each kind. -/
def ticketFilters : List FilterSpec :=
  [{ key := "search", kind := .search, label := "Search" }, { key := "level", kind := .select, label := "Level" },
    { key := "urgent", kind := .toggle, label := "Urgent" }, { key := "team", kind := .multiSelect, label := "Team" }]

/-- Two of the values say something. The others are blank, the option for all, and a value for no filter. -/
theorem params_per_key_tickets :
    let values : FilterValues := [("level", .text "all"), ("owner", .text "Ann"), ("search", .text "\t\u00a0 \n"),
      ("team", .many ["core", "all", "web", "core"]), ("urgent", .flag true)]
    let params := buildParams ticketFilters values
    (ticketFilters.map (·.key)).Nodup ∧
      Dict.get? params "team" = some (.array [.string "core", .string "web", .string "core"]) ∧
      Dict.get? params "urgent" = some (.bool true) ∧ Dict.get? params "search" = none ∧
      buildParams ticketFilters.reverse values = params ∧
      Dict.get? (buildParams ticketFilters (Dict.insert values "level" (.text "2"))) "team" = Dict.get? params "team" ∧
      anyActive ticketFilters values = true := by
  intro values params
  have hkeys : (ticketFilters.map (·.key)).Nodup := by decide
  obtain ⟨-, hget, hperm, hother, hactive⟩ := params_per_key hkeys values
  let team : FilterSpec := { key := "team", kind := .multiSelect, label := "Team" }
  let urgent : FilterSpec := { key := "urgent", kind := .toggle, label := "Urgent" }
  have hteam : team ∈ ticketFilters := by decide
  have hurgent : urgent ∈ ticketFilters := by decide
  refine ⟨hkeys, (hget ..).mpr ⟨team, hteam, rfl, _, rfl, .multiSelect ⟨"core", by decide⟩⟩,
    (hget ..).mpr ⟨urgent, hurgent, rfl, _, rfl, .toggle⟩, ?_, hperm _ ticketFilters.reverse_perm, ?_,
    hactive.mpr ⟨urgent, hurgent, _, _, rfl, .toggle⟩⟩
  · refine Option.eq_none_iff_forall_ne_some.mpr fun v hv => ?_
    obtain ⟨f, hf, hkey, value, hvalue, hmakes⟩ := (hget ..).mp hv
    have hsearch : f.kind = .search := (by decide : ∀ f ∈ ticketFilters, f.key = "search" → f.kind = .search) f hf hkey
    cases (show _ = some value from hvalue)
    rw [hsearch] at hmakes
    cases hmakes.eq
  · exact hother "level" _ (fun other hne => Dict.get?_insert_of_ne _ _ hne.symm) "team" (by decide)

end FilterSpec

end RecordScreens
