import RecordScreens.Listing.Screen
import RecordScreens.Proofs.Filter.Params
import RecordScreens.Proofs.Listing.Built
import RecordScreens.Proofs.Listing.Params
import RecordScreens.Proofs.Positions
import RecordScreens.Record.Dynamic
import RecordScreens.Source.Scripted

/-!
# What is entered on a list screen

The filters, the order and the page of a list screen are changed one by one, and what the screen asks for is made of all
three. Whatever was entered, and in whatever order, they go together: the order is one that the list can be sorted by,
and the page is counted for the filters and the order that are shown.
-/

namespace RecordScreens

variable {S R : Type}

/-- What the user of a list screen can enter. -/
inductive ListInput where
  | filter (key : String) (value : FilterValue)
  | clearFilters
  | sort (key : String) (order : SortOrder)
  | page (n : Nat)

namespace ListInput

/-- Nobody can sort by a column that is not there or that is not for sorting. -/
def Refused (c : ListConfig R) : ListInput → Prop
  | sort key _ => ¬ c.SortableBy key
  | _ => False

/-- The page that is shown after an input that is not refused. -/
def leadsTo : ListInput → Nat
  | page n => n
  | _ => 0

end ListInput

namespace ListScreen

/-- The screen after an input. -/
def enter (s : ListScreen R) : ListInput → ListScreen R
  | .filter key value => s.setFilter key value
  | .clearFilters => s.clearFilters
  | .sort key order => s.setSort key order
  | .page n => s.setPage n

/-- The screen after some inputs. -/
def enterAll (s : ListScreen R) (inputs : List ListInput) : ListScreen R := inputs.foldl enter s

variable {s : ListScreen R} {c : ListConfig R} {i : ListInput} {key : String} {order : SortOrder}

/-! ## What a screen asks for -/

@[simp] theorem params_limit (s : ListScreen R) : s.params.limit = some s.config.pageSize := by
  unfold params
  split <;> rfl

@[simp] theorem params_offset (s : ListScreen R) : s.params.offset = s.page * s.config.pageSize := by
  unfold params
  split <;> rfl

/-- What the screen asks for is in words if its page is. -/
theorem inWords_params (hsize : s.config.pageSize < Nat.pow 2 64)
    (hoffset : s.page * s.config.pageSize < Nat.pow 2 64) : s.params.InWords := by
  refine ⟨fun n hn => ?_, s.params_offset ▸ hoffset⟩
  rw [params_limit] at hn
  cases hn
  exact hsize

@[simp] theorem params_filters (s : ListScreen R) : s.params.filters = s.filterParams := by
  unfold params
  split <;> rfl

/-- The order of the query is the order of the screen; without one, no column is named. -/
theorem params_sort (s : ListScreen R) :
    s.params.sortBy = s.sort.map (·.1) ∧ ∀ key order, s.sort = some (key, order) → s.params.sortOrder = order := by
  unfold params
  cases hsort : s.sort with
  | none => exact ⟨rfl, nofun⟩
  | some sort =>
    refine ⟨rfl, ?_⟩
    rintro key order ⟨⟩
    rfl

/-! ## Sorting -/

@[simp] theorem config_setSort (key : String) (order : SortOrder) : (s.setSort key order).config = s.config := by
  unfold setSort
  split <;> rfl

@[simp] theorem query_setSort (key : String) (order : SortOrder) : (s.setSort key order).query = s.query := by
  unfold setSort
  split <;> rfl

/-- With keys that differ, the column that is found is the one that can be sorted by. -/
theorem sortable_column?_iff (hkeys : (c.columns.map (·.key)).Nodup) :
    (c.column? key).any (·.sortable) = true ↔ c.SortableBy key := by
  have hfind (column : ColumnSpec R) : c.column? key = some column ↔ column ∈ c.columns ∧ column.key = key :=
    find?_key_eq_some_iff hkeys
  simp only [Option.any_eq_true, hfind, ListConfig.SortableBy, and_assoc]

theorem setSort_of_sortable (hkeys : (s.config.columns.map (·.key)).Nodup) (h : s.config.SortableBy key) :
    s.setSort key order = { s with sort := some (key, order), page := 0 } :=
  if_pos ((sortable_column?_iff hkeys).mpr h)

theorem setSort_of_not_sortable (hkeys : (s.config.columns.map (·.key)).Nodup) (h : ¬ s.config.SortableBy key) :
    s.setSort key order = s :=
  if_neg (mt (sortable_column?_iff hkeys).mp h)

/-! ## Inputs one after the other -/

/-- The configuration of a screen, and an order that it allows. -/
structure Consistent (c : ListConfig R) (s : ListScreen R) : Prop where
  config : s.config = c
  sort : ∀ key order, s.sort = some (key, order) → c.SortableBy key

theorem consistent_start [Record R] (h : c.Sound) (e : Engine S) : Consistent c (start c e).1 := ⟨rfl, h.sortable⟩

theorem enter_of_refused (h : c.Sound) (hs : Consistent c s) (hi : i.Refused c) : s.enter i = s := by
  obtain ⟨rfl, -⟩ := hs
  cases i with
  | sort key order => exact setSort_of_not_sortable h.columnKeys hi
  | _ => exact hi.elim

theorem page_enter (h : c.Sound) (hs : Consistent c s) (hi : ¬ i.Refused c) : (s.enter i).page = i.leadsTo := by
  obtain ⟨rfl, -⟩ := hs
  cases i with
  | sort key order =>
    have hsort : s.setSort key order = { s with sort := some (key, order), page := 0 } :=
      setSort_of_sortable h.columnKeys (not_not.mp hi)
    exact congrArg page hsort
  | _ => rfl

theorem Consistent.enter (h : c.Sound) (hs : Consistent c s) (i : ListInput) : Consistent c (s.enter i) := by
  by_cases hi : i.Refused c
  · rwa [enter_of_refused h hs hi]
  · obtain ⟨rfl, hsort⟩ := hs
    cases i with
    | sort key order =>
      have hkey : s.config.SortableBy key := not_not.mp hi
      refine ⟨config_setSort key order, ?_⟩
      rw [ListScreen.enter, setSort_of_sortable h.columnKeys hkey]
      rintro _ _ ⟨⟩
      exact hkey
    | _ => exact ⟨rfl, hsort⟩

theorem Consistent.enterAll (h : c.Sound) (hs : Consistent c s) (inputs : List ListInput) :
    Consistent c (s.enterAll inputs) := by
  induction inputs generalizing s with
  | nil => exact hs
  | cons i rest ih => exact ih (hs.enter h i)

theorem enterAll_of_refused (h : c.Sound) (hs : Consistent c s) {inputs : List ListInput}
    (hinputs : ∀ i ∈ inputs, i.Refused c) : s.enterAll inputs = s := by
  induction inputs with
  | nil => rfl
  | cons i rest ih =>
    obtain ⟨hi, hrest⟩ := List.forall_mem_cons.mp hinputs
    exact (congrArg (·.enterAll rest) (enter_of_refused h hs hi)).trans (ih hrest)

/-- The page is where the last input leads that was not refused. -/
theorem page_enterAll (h : c.Sound) (hs : Consistent c s) {before later : List ListInput} (hi : ¬ i.Refused c)
    (hlater : ∀ j ∈ later, j.Refused c) : (s.enterAll (before ++ i :: later)).page = i.leadsTo := by
  have hbefore : Consistent c (s.enterAll before) := hs.enterAll h before
  have hsplit : s.enterAll (before ++ i :: later) = ((s.enterAll before).enter i).enterAll later := List.foldl_append
  rw [hsplit, enterAll_of_refused h (hbefore.enter h i) hlater, page_enter h hbefore hi]

/-- Whatever is entered on the screen of a list that was built, it is sorted by a column that can be sorted by or not at
all, and it asks for a page of its filters and its order. The page is the one that was asked for since the filters or
the order were changed, and the first one if there is none; an order that is refused changes nothing. -/
theorem inputs_consistent [Record R] {d : ListDraft R} (hbuild : d.build = .ok c) (e : Engine S)
    (inputs : List ListInput) :
    let s := (start c e).1.enterAll inputs
    (∀ key order, s.sort = some (key, order) → c.SortableBy key) ∧
    s.params.limit = some c.pageSize ∧ s.params.offset = s.page * c.pageSize ∧
    s.params.sortBy = s.sort.map (·.1) ∧
    (∀ key ∈ Dict.keys s.params.filters, ∃ f ∈ c.filters, f.key = key) ∧
    ((∀ i ∈ inputs, i.Refused c) → s.page = 0) ∧
    (∀ before i later, inputs = before ++ i :: later → ¬ i.Refused c → (∀ j ∈ later, j.Refused c) →
      s.page = i.leadsTo) ∧
    (∀ key order, c.SortableBy key → s.setSort key order = { s with sort := some (key, order), page := 0 }) ∧
    (∀ key order, ¬ c.SortableBy key → s.setSort key order = s) := by
  intro s
  have hsound : c.Sound := ListDraft.sound_of_build hbuild
  have hstart : Consistent c (start c e).1 := consistent_start hsound e
  have hs : Consistent c s := hstart.enterAll hsound inputs
  have hkeys : (s.config.columns.map (·.key)).Nodup := hs.config ▸ hsound.columnKeys
  refine ⟨hs.sort, hs.config ▸ s.params_limit, hs.config ▸ s.params_offset, s.params_sort.1, fun key hkey => ?_,
    fun hinputs => ?_, ?_, fun key order h => ?_, fun key order h => ?_⟩
  · rw [params_filters, filterParams, hs.config] at hkey
    obtain ⟨f, hf, hfkey⟩ := List.mem_map.mp (FilterSpec.mem_map_key_of_buildParams hkey)
    exact ⟨f, hf, hfkey⟩
  · exact congrArg page (enterAll_of_refused hsound hstart hinputs)
  · rintro before i later rfl hi hlater
    exact page_enterAll hsound hstart hi hlater
  · exact setSort_of_sortable hkeys (hs.config ▸ h)
  · exact setSort_of_not_sortable hkeys (hs.config ▸ h)

/-- A list of orders, by number unless something else is asked for. -/
def ordersList : ListConfig JsonRecord where
  entityType := "order"
  entityName := ⟨"order", "Orders"⟩
  baseRoute := "/orders"
  title := "Orders"
  description := none
  icon := none
  primaryAction := none
  statsCards := []
  statsQuery := none
  filters := [{ key := "paid", kind := .toggle, label := "Paid" }]
  columns := [{ key := "number", label := "Number", sortable := true }, { key := "buyer", label := "Buyer" }]
  statusTable := {}
  listQuery := "orders"
  pageSize := 10
  defaultSort := some ("number", .desc)
  emptyState := { title := "No orders" }
  quickActions := []

/-- The second page is taken back by a filter. The page that is asked for afterwards stays, as the list cannot be sorted
by what comes after it. -/
theorem inputs_consistent_orders :
    let draft : ListDraft JsonRecord := {
      entityType := "order", title := some "Orders", baseRoute := some "/orders", listQuery := some "orders"
      filters := ordersList.filters, columns := ordersList.columns, pageSize := 10
      defaultSort := some ("number", .desc), emptyState := some { title := "No orders" } }
    let e : Engine Scripted := { binder := { source := {} } }
    let s := (start ordersList e).1.enterAll [.page 1, .filter "paid" (.flag true), .filter "colour" (.text "red"),
      .page 2, .sort "buyer" .asc, .sort "colour" .asc]
    draft.build = .ok ordersList ∧ ¬ ordersList.SortableBy "buyer" ∧ ¬ ordersList.SortableBy "colour" ∧
      s.page = 2 ∧ s.params.limit = some 10 ∧ s.params.offset = 20 ∧ s.sort = some ("number", .desc) ∧
      "colour" ∉ Dict.keys s.params.filters ∧ s.setSort "buyer" .asc = s := by
  intro draft e s
  have hbuild : draft.build = .ok ordersList := rfl
  have hbuyer : ¬ ordersList.SortableBy "buyer" := by simp [ListConfig.SortableBy, ordersList]
  have hcolour : ¬ ordersList.SortableBy "colour" := by simp [ListConfig.SortableBy, ordersList]
  obtain ⟨-, hlimit, hoffset, -, hfilters, -, hpage, -, hrefused⟩ := inputs_consistent hbuild e
    [.page 1, .filter "paid" (.flag true), .filter "colour" (.text "red"), .page 2, .sort "buyer" .asc,
      .sort "colour" .asc]
  have htwo : s.page = 2 := hpage [_, _, _] (.page 2) [.sort "buyer" .asc, .sort "colour" .asc] rfl nofun <| by
    simp [ListInput.Refused, hbuyer, hcolour]
  have hundeclared : "colour" ∉ Dict.keys s.params.filters := by
    intro h
    obtain ⟨f, hf, hkey⟩ := hfilters _ h
    obtain rfl := List.mem_singleton.mp hf
    exact absurd hkey (by decide)
  exact ⟨hbuild, hbuyer, hcolour, htwo, hlimit, hoffset.trans (by rw [htwo]; rfl), rfl, hundeclared,
    hrefused "buyer" .asc hbuyer⟩

end ListScreen

end RecordScreens
