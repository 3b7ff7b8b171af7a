import RecordScreens.Proofs.Listing.Shown

/-!
# What an empty page says

A page has no rows if the collection has no records, if the filters leave none, or if the page begins after the last
record. The text that stands in for the rows is chosen by the filters alone, so it takes the third for the first.
-/

namespace RecordScreens

open Routine

variable {R : Type} [Record R]

/-! ## Empty pages -/

namespace Source

theorem stretch_eq_nil_iff {α : Type} {k n : Nat} {items : List α} :
    stretch (k * n) (some n) items = [] ↔ n = 0 ∨ items.length ≤ k * n := by
  rw [← List.length_eq_zero_iff, length_stretch]
  omega

/-- Without parameters for filters, every record is found. -/
theorem countP_matchesAll_nil (fields : List String) (records : List Json) :
    records.countP (matchesAll fields []) = records.length :=
  List.countP_eq_length.mpr fun _ _ => rfl

end Source

/-- A page without records is read whatever the kind of the records is. -/
theorem ListQuery.read_of_stretch_eq_nil {store : Store} {key collection : String} {fields : List String}
    {p : ListParams} (hroute : Dict.get? store.routes key = some (.list collection fields)) (hwords : p.InWords)
    (hnone : Source.stretch p.offset p.limit (Source.found fields p (store.records collection)) = []) :
    ∃ page, (ofRecords R key).read p (Store.call key p.toQuery store).1 = .ok page := by
  have hitems : (Source.stretch p.offset p.limit (Source.found fields p (store.records collection))).mapM
      (ofRecords R key).fullForm? = some [] := by
    rw [hnone]
    rfl
  rw [Store.call_list hroute (ListParams.decode_toQuery hwords)]
  exact ⟨_, Source.ofAnswer_page key hitems⟩

/-- The title and the description for an empty page, with or without active filters. -/
def EmptyState.text (empty : EmptyState) (filtered : Bool) : String × String :=
  (empty.title, empty.description filtered)

namespace ListScreen

variable {s : ListScreen R} {e : Engine Store} {p : ListParams} {store : Store} {collection : String}
  {fields : List String}

/-- The page that is shown has no place for any of `n` records: it begins after them, or it has no places at all. -/
def PastEnd (s : ListScreen R) (n : Nat) : Prop := s.config.pageSize = 0 ∨ n ≤ s.page * s.config.pageSize

omit [Record R] in
/-- The first page of a list begins with its first record. -/
theorem pastEnd_first {n : Nat} (hpage : s.page = 0) (hsize : s.config.pageSize ≠ 0) : s.PastEnd n ↔ n = 0 := by
  rw [PastEnd, hpage, Nat.zero_mul]
  omega

omit [Record R] in
/-- Without an active filter, every record is found. -/
theorem countP_of_not_hasActiveFilters (h : s.hasActiveFilters = false) (fields : List String) (records : List Json) :
    records.countP (Source.matchesAll fields s.filterParams) = records.length := by
  have hnone : s.filterParams = [] := by
    rwa [hasActiveFilters, FilterSpec.anyActive, Bool.not_eq_false', List.isEmpty_iff] at h
  rw [hnone, Source.countP_matchesAll_nil]

/-- Which text stands in for the rows depends on nothing but whether a filter is active. -/
theorem emptyState_eq (s : ListScreen R) (e : Engine Store) :
    s.emptyState e = none ∨ s.emptyState e = some (s.config.emptyState.text s.hasActiveFilters) := by
  cases hdata : (s.state e).data? with
  | none => simp [emptyState, hdata]
  | some page => cases hempty : page.isEmpty <;> simp [emptyState, EmptyState.text, hdata, hempty]

/-- Something stands in for the rows if the store takes the parameters and has no record for the page. -/
theorem Shows.emptyState_isSome_iff [LawfulRecord R] (h : s.Shows e p store)
    (hroute : Dict.get? store.routes s.config.listQuery = some (.list collection fields)) :
    (s.emptyState e).isSome = true ↔
      p.InWords ∧ Source.stretch p.offset p.limit (Source.found fields p (store.records collection)) = [] := by
  rw [emptyState, h]
  cases hread : (ListQuery.ofRecords R s.config.listQuery).read p (Store.call s.config.listQuery p.toQuery store).1 with
  | error error =>
    -- Only parameters out of range and records that cannot be read are errors, so an empty page is none.
    refine ⟨nofun, ?_⟩
    rintro ⟨hwords, hnone⟩
    obtain ⟨page, hpage⟩ := ListQuery.read_of_stretch_eq_nil (R := R) hroute hwords hnone
    cases hread.symm.trans hpage
  | ok page =>
    obtain ⟨hwords, hforms⟩ := ListQuery.stretch_of_read hroute hread
    have hlength := Page.length_filterMap hforms
    have hempty : (page.filterMap (Record.decode : Json → Option R)).isEmpty = true ↔
        Source.stretch p.offset p.limit (Source.found fields p (store.records collection)) = [] := by
      rw [Page.isEmpty, List.isEmpty_iff_length_eq_zero, hlength, List.length_eq_zero_iff]
    simp [QueryState.ofResult, QueryState.mapData, QueryState.data?, hempty, hwords]

/-- A page of what the screen asks for is empty if it begins after the records that the filters leave. -/
theorem Shows.emptyState_isSome_iff_pastEnd [LawfulRecord R] (h : s.Shows e s.params store)
    (hroute : Dict.get? store.routes s.config.listQuery = some (.list collection fields)) :
    (s.emptyState e).isSome = true ↔
      s.params.InWords ∧ s.PastEnd ((store.records collection).countP (Source.matchesAll fields s.filterParams)) := by
  rw [h.emptyState_isSome_iff hroute, params_limit, params_offset, Source.stretch_eq_nil_iff, Source.length_found,
    params_filters]
  rfl

/-- With two texts that differ, the one for no active filter stands for a page past the end of the collection. -/
theorem Shows.emptyState_eq_unfiltered_iff [LawfulRecord R] (h : s.Shows e s.params store)
    (hroute : Dict.get? store.routes s.config.listQuery = some (.list collection fields))
    (hdiffer : s.config.emptyState.text true ≠ s.config.emptyState.text false) :
    s.emptyState e = some (s.config.emptyState.text false) ↔
      s.hasActiveFilters = false ∧ s.params.InWords ∧ s.PastEnd (store.records collection).length := by
  have hsome := h.emptyState_isSome_iff_pastEnd hroute
  have htext := s.emptyState_eq e
  cases hactive : s.hasActiveFilters with
  | false =>
    rw [countP_of_not_hasActiveFilters hactive] at hsome
    simp only [true_and, ← hsome]
    rw [hactive] at htext
    rcases htext with htext | htext <;> simp [htext]
  | true =>
    rw [hactive] at htext
    rcases htext with htext | htext <;> simp [htext, hdiffer]

/-- The text for active filters is the only one while a filter is active or the collection goes on. -/
theorem Shows.emptyState_eq_filtered [LawfulRecord R] (h : s.Shows e s.params store)
    (hroute : Dict.get? store.routes s.config.listQuery = some (.list collection fields))
    (hcause : s.hasActiveFilters = true ∨ ¬ s.PastEnd (store.records collection).length) :
    s.emptyState e = none ∨ s.emptyState e = some (s.config.emptyState.text true) := by
  cases hactive : s.hasActiveFilters with
  | true => exact hactive ▸ s.emptyState_eq e
  | false =>
    have hbefore : ¬ s.PastEnd (store.records collection).length := hcause.resolve_left (by simp [hactive])
    have hsome := h.emptyState_isSome_iff_pastEnd hroute
    rw [countP_of_not_hasActiveFilters hactive] at hsome
    exact .inl (Option.not_isSome_iff_eq_none.mp fun hshown => hbefore (hsome.mp hshown).2)

/-! ## Refreshed screens -/

namespace Session

variable {c : ListConfig R} {s₀ : Store} {i : Nat} {asked : Option ListParams} {t : Session R}

theorem Traced.route (h : Traced c s₀ i asked t) :
    t.engine.binder.source.routes = s₀.routes := by
  obtain ⟨-, -, calls, -, hcalls, -⟩ := h
  rw [hcalls]
  exact (Store.calls_after s₀ calls).2

/-- A refresh shows what the store answers to what the screen asks for, and changes nothing in the store. -/
theorem Traced.shows_refresh (h : Traced c s₀ i asked t)
    (hroute : Dict.get? s₀.routes c.listQuery = some (.list collection fields)) :
    (t.step .refresh).screen.Shows (t.step .refresh).engine t.screen.params t.engine.binder.source ∧
      (t.step .refresh).engine.binder.source.records collection = t.engine.binder.source.records collection := by
  have hroutes : t.engine.binder.source.routes = s₀.routes := h.route
  obtain ⟨rfl, rfl, calls, q, -, hq, htraced⟩ := h
  have hbinder := t.binder_refresh
  rw [Binder.run_fetchList hq] at hbinder
  refine ⟨?_, ?_⟩
  · have hslot : (t.step .refresh).engine.binder.slot? t.screen.query = some (.list _) :=
      (congrArg (·.slot? t.screen.query) hbinder).trans (Binder.slot?_ask_put hq ..)
    have hstate : (t.step .refresh).screen.state (t.step .refresh).engine = _ := state_of_slot hslot
    rw [ListScreen.Shows, hstate, ListQuery.read, htraced.key_eq, htraced.form_eq]
    rfl
  · have hsource : (t.step .refresh).engine.binder.source =
        (Store.call q.key t.screen.params.toQuery t.engine.binder.source).2 := congrArg Binder.source hbinder
    rw [hsource, htraced.key_eq, Store.call_list_after (hroutes ▸ hroute)]
    rfl

end Session

/-! ## The law -/

open Session in
/-- After a refresh, whatever happened before, a text stands in for the rows exactly if the page begins after all
records that the filters leave, and it tells an active filter from other causes and no more. So the text for no records
at all is right on the first page, and on a page that begins before the end of the collection it is not shown; on a
later one, it also stands for a collection that has records. The page has to begin at a place that fits in a word of 64
bits, where nothing else bounds it. -/
theorem empty_page_explained [LawfulRecord R] (c : ListConfig R) (e : Engine Store) {collection : String}
    {fields : List String} (hroute : Dict.get? e.binder.source.routes c.listQuery = some (.list collection fields))
    {events : List Event} (hallowed : ∀ event ∈ events, event.Allowed (ListScreen.start c e).1.query) :
    let t := (Session.start c e).after events
    let s := t.screen
    let refreshed := (t.step .refresh).engine
    let records := refreshed.binder.source.records collection
    let matching := records.countP (Source.matchesAll fields s.filterParams)
    let shown := s.emptyState refreshed
    let filtered := c.emptyState.text true
    let unfiltered := c.emptyState.text false
    let fits := c.pageSize < 2 ^ 64 ∧ s.page * c.pageSize < 2 ^ 64
    (shown = none ∨ shown = some (if s.hasActiveFilters then filtered else unfiltered)) ∧
    (fits → (shown.isSome = true ↔ s.PastEnd matching)) ∧
    (s.hasActiveFilters = false → matching = records.length) ∧
    (fits → filtered ≠ unfiltered →
      (shown = some unfiltered ↔ s.hasActiveFilters = false ∧ s.PastEnd records.length)) ∧
    (s.hasActiveFilters = true ∨ ¬ s.PastEnd records.length → shown = none ∨ shown = some filtered) ∧
    (filtered ≠ unfiltered → s.page = 0 → c.pageSize ≠ 0 → shown = some unfiltered → records = []) := by
  intro t s refreshed records matching shown filtered unfiltered fits
  obtain ⟨asked, htraced⟩ := (traced_start c e).exists_after hallowed
  obtain ⟨hshows, hrecords⟩ : s.Shows refreshed s.params t.engine.binder.source ∧
      records = t.engine.binder.source.records collection := htraced.shows_refresh hroute
  have hconfig : s.config = c := htraced.config
  have hroute' : Dict.get? t.engine.binder.source.routes s.config.listQuery = some (.list collection fields) := by
    rw [htraced.route, hconfig]
    exact hroute
  have hwords (h : fits) : s.params.InWords := by
    simp only [fits, ← hconfig] at h
    exact inWords_params h.1 h.2
  have htext := s.emptyState_eq refreshed
  have hsome := hshows.emptyState_isSome_iff_pastEnd hroute'
  have hunfiltered := hshows.emptyState_eq_unfiltered_iff hroute'
  have hfiltered := hshows.emptyState_eq_filtered hroute'
  rw [hconfig] at htext hunfiltered hfiltered
  rw [← hrecords] at hsome hunfiltered hfiltered
  refine ⟨?_, fun h => hsome.trans (and_iff_right (hwords h)), fun h => countP_of_not_hasActiveFilters h fields records,
    fun h hdiffer => ?_, hfiltered, fun hdiffer hpage hsize h => ?_⟩
  · cases hactive : s.hasActiveFilters <;> rwa [hactive] at htext
  · rw [hunfiltered hdiffer, and_iff_right (hwords h)]
  · have hlength : records.length = 0 := (pastEnd_first hpage (hconfig ▸ hsize)).mp ((hunfiltered hdiffer).mp h).2.2
    exact List.length_eq_zero_iff.mp hlength

open Session in
/-- None of three orders is paid, and this is what an empty page says. -/
theorem empty_page_explained_orders :
    let e : Engine Store := { binder := { source := orders } }
    let opened := Session.start ordersByTwo e
    let events : List Event := [.enter (.filter "paid" (.flag true))]
    let t := opened.after events
    let refreshed := (t.step .refresh).engine
    Dict.get? orders.routes ordersByTwo.listQuery = some (.list "orders" []) ∧
      (∀ event ∈ events, event.Allowed opened.screen.query) ∧
      t.screen.emptyState refreshed = some ("No orders", "Try adjusting your search or filters") ∧
      (refreshed.binder.source.records "orders").length = 3 := by
  intro e opened events t refreshed
  have hroute : Dict.get? e.binder.source.routes ordersByTwo.listQuery = some (.list "orders" []) := rfl
  have hallowed : ∀ event ∈ events, event.Allowed opened.screen.query := by simp [events, Event.Allowed]
  obtain ⟨-, hsome, -, -, hfiltered, -⟩ := empty_page_explained ordersByTwo e hroute hallowed
  have hempty : (t.screen.emptyState refreshed).isSome = true :=
    (hsome ⟨by decide, by decide +kernel⟩).mpr (.inr (by decide +kernel))
  refine ⟨hroute, hallowed, (hfiltered (.inl (by decide +kernel))).resolve_left ?_, by decide +kernel⟩
  exact Option.isSome_iff_ne_none.mp hempty

open Session in
/-- The page after three orders is empty, and says that there are none at all. -/
theorem page_past_end_misread :
    let draft : ListDraft JsonRecord := {
      entityType := "order", title := some "Orders", baseRoute := some "/orders", listQuery := some "orders"
      filters := ordersList.filters, columns := ordersList.columns, pageSize := 2
      emptyState := some { title := "No orders" } }
    let t := (Session.start ordersByTwo { binder := { source := orders } }).after [.enter (.page 2)]
    let refreshed := (t.step .refresh).engine
    draft.build = .ok ordersByTwo ∧ Dict.get? orders.routes ordersByTwo.listQuery = some (.list "orders" []) ∧
      t.screen.emptyState refreshed = some ("No orders", ordersByTwo.emptyState.unfilteredDescription) ∧
      ordersByTwo.emptyState.unfilteredDescription ≠ ordersByTwo.emptyState.filteredDescription ∧
      (refreshed.binder.source.records "orders").length = 3 := by
  refine ⟨rfl, rfl, by decide +kernel, by decide, by decide +kernel⟩

end ListScreen

end RecordScreens
