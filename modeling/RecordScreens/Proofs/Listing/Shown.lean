import RecordScreens.Proofs.Action.Effects
import RecordScreens.Proofs.Listing.Inputs
import RecordScreens.Proofs.Listing.Pages
import RecordScreens.Proofs.Query.Freshness
import RecordScreens.Proofs.Record.Reading
import RecordScreens.Proofs.Source.Writes

/-!
# What list screens show

A list screen over a store shows what the store answered to the last fetch of its query. From the
first time on that the screen is refreshed, this is a page that the screen asked for, whoever fetches
it again. Before, it is whatever an invalidation fetches, and that is the whole collection.
-/

namespace RecordScreens

open Routine

variable {S R : Type} [Record R]

/-! ## Pages of a store -/

namespace Store

theorem after_append (s : Store) (calls more : List SourceCall) :
    s.after (calls ++ more) = (s.after calls).after more :=
  List.foldl_append

theorem after_query (s : Store) (key : String) (params : Json) :
    s.after [⟨.query, key, params⟩] = (call key params s).2 :=
  rfl

end Store

/-- A record that was read is read again from its full form, so none is lost. -/
theorem Page.length_filterMap [LawfulRecord R] {page : Page Json} {values : List Json}
    (h : values.map (Record.fullForm? R) = page.items.map some) :
    (page.filterMap (Record.decode : Json → Option R)).items.length = values.length := by
  have hread : ∀ item ∈ page.items, ((Record.decode item : Option R)).isSome = true := by
    intro item hitem
    obtain ⟨v, -, hform⟩ := List.mem_map.mp (h ▸ List.mem_map_of_mem hitem)
    obtain ⟨r, hr, rfl⟩ := Option.map_eq_some_iff.mp hform
    rw [LawfulRecord.decode_encode hr]
    rfl
  have hlength : values.length = page.items.length := by simpa using congrArg List.length h
  rw [hlength]
  exact List.filterMap_length_eq_length.mpr hread

namespace ListQuery

variable {s : Store} {key collection : String} {fields : List String} {p : ListParams}

/-- A page has as many records as the stretch that it was asked for. -/
theorem stretch_of_read (hroute : Dict.get? s.routes key = some (.list collection fields)) {page : Page Json}
    (h : (ofRecords R key).read p (Store.call key p.toQuery s).1 = .ok page) :
    p.InWords ∧ (Source.stretch p.offset p.limit (Source.found fields p (s.records collection))).map
      (Record.fullForm? R) = page.items.map some := by
  obtain ⟨asked, hasked, hforms⟩ := items_of_read hroute h
  obtain ⟨hwords, rfl⟩ := ListParams.decode_toQuery_eq_some.mp hasked
  exact ⟨hwords, hforms⟩

end ListQuery

namespace ListScreen

/-! ## What is shown -/

theorem state_of_slot {s : ListScreen R} {e : Engine S} {q : ListQuery} (h : e.binder.slot? s.query = some (.list q)) :
    s.state e = q.state.mapData (·.filterMap Record.decode) := by
  simp only [state, Binder.list?_of_slot? h]

/-- The screen shows what a store answers to these parameters. -/
def Shows (s : ListScreen R) (e : Engine Store) (p : ListParams) (store : Store) : Prop :=
  s.state e = (QueryState.ofResult ((ListQuery.ofRecords R s.config.listQuery).read p
    (Store.call s.config.listQuery p.toQuery store).1)).mapData (·.filterMap Record.decode)

variable {s : ListScreen R} {e : Engine Store} {p : ListParams} {store : Store} {collection : String}
  {fields : List String} {rows : List RenderedRow}

theorem rows_of_pending (h : s.state e = .pending) (hrows : s.rows e = .ok rows) : rows = [] := by
  rw [ListScreen.rows, h] at hrows
  cases hrows
  rfl

/-- The rows of an answer: none for an error, and else one for each record that is read from the page. -/
theorem Shows.page_of_rows (h : s.Shows e p store)
    (hroute : Dict.get? store.routes s.config.listQuery = some (.list collection fields))
    (hrows : s.rows e = .ok rows) :
    rows = [] ∨ ∃ page : Page Json, p.InWords ∧
      (Source.stretch p.offset p.limit (Source.found fields p (store.records collection))).map (Record.fullForm? R) =
        page.items.map some ∧
      rows.length = (page.filterMap (Record.decode : Json → Option R)).items.length := by
  rw [ListScreen.rows, h] at hrows
  cases hread : (ListQuery.ofRecords R s.config.listQuery).read p
      (Store.call s.config.listQuery p.toQuery store).1 with
  | error error =>
    rw [hread] at hrows
    cases hrows
    exact .inl rfl
  | ok page =>
    rw [hread] at hrows
    obtain ⟨hwords, hforms⟩ := ListQuery.stretch_of_read hroute hread
    exact .inr ⟨page, hwords, hforms, length_of_mapM hrows⟩

/-- A page with a limit has at most so many rows. -/
theorem Shows.length_rows_le (h : s.Shows e p store)
    (hroute : Dict.get? store.routes s.config.listQuery = some (.list collection fields)) {n : Nat}
    (hlimit : p.limit = some n) (hrows : s.rows e = .ok rows) : rows.length ≤ n := by
  rcases h.page_of_rows hroute hrows with rfl | ⟨page, -, hforms, hlength⟩
  · exact Nat.zero_le n
  · have hitems : page.items.length ≤ n := by
      have hsame := congrArg List.length hforms
      simp only [List.length_map, Source.stretch, hlimit, List.length_take] at hsame
      omega
    rw [hlength]
    exact (List.length_filterMap_le ..).trans hitems

/-- Without a page to ask for, there is a row for each record of the collection, unless there is no row at all. -/
theorem Shows.length_rows_default [LawfulRecord R] (h : s.Shows e {} store)
    (hroute : Dict.get? store.routes s.config.listQuery = some (.list collection fields))
    (hrows : s.rows e = .ok rows) :
    rows = [] ∨ rows.length = (store.records collection).length := by
  refine (h.page_of_rows hroute hrows).imp_right ?_
  rintro ⟨page, -, hforms, hlength⟩
  rw [hlength, Page.length_filterMap hforms]
  simp [Source.stretch, Source.found, Source.matchesAll]

end ListScreen

/-! ## What the query knows -/

/-- The query of a list screen, if `calls` were made since `s₀` and it was last asked for `asked`: it knows nothing yet,
or what was answered to one of the calls, which asked for just that. -/
structure ListQuery.Traced (c : ListConfig R) (s₀ : Store) (calls : List SourceCall) (asked : Option ListParams)
    (q : ListQuery) : Prop where
  key_eq : q.key = c.listQuery
  form_eq : q.fullForm? = Record.fullForm? R
  params_eq : q.refetchParams = asked.getD {}
  known : asked = none ∧ q.state = .pending ∨ ∃ before later,
    calls = before ++ ⟨.query, c.listQuery, (asked.getD {}).toQuery⟩ :: later ∧
    q.state = .ofResult (q.read (asked.getD {}) (Store.call c.listQuery (asked.getD {}).toQuery (s₀.after before)).1)

namespace Binder

/-- The query in a place of a binder is that of a list screen, and was last asked for `asked`. -/
def Traced (c : ListConfig R) (s₀ : Store) (i : Nat) (asked : Option ListParams) (b : Binder Store) : Prop :=
  ∃ calls q, b.source = s₀.after calls ∧ b.slot? i = some (.list q) ∧ q.Traced c s₀ calls asked

variable {c : ListConfig R} {s₀ : Store} {i : Nat} {asked asked' : Option ListParams} {b b' : Binder Store}

/-- What leaves the query alone and changes the store by calls only leaves what is known of the query. -/
theorem Traced.aside (h : b.Traced c s₀ i asked) (hslot : b'.slot? i = b.slot? i)
    (hsource : ∃ more, b'.source = b.source.after more) : b'.Traced c s₀ i asked := by
  obtain ⟨calls, q, hcalls, hq, htraced⟩ := h
  obtain ⟨more, hmore⟩ := hsource
  refine ⟨calls ++ more, q, ?_, hslot.trans hq, htraced.key_eq, htraced.form_eq, htraced.params_eq, ?_⟩
  · rw [hmore, hcalls, Store.after_append]
  · refine htraced.known.imp_right ?_
    rintro ⟨before, later, rfl, hstate⟩
    exact ⟨before, later ++ more, by simp, hstate⟩

/-- A fetch leaves the answer to its own call. -/
theorem Traced.fetchList (h : b.Traced c s₀ i asked) {p : ListParams} (hp : asked'.getD {} = p) :
    ((Binder.fetchList i p).run b).2.Traced c s₀ i asked' := by
  obtain ⟨calls, q, hcalls, hq, htraced⟩ := h
  rw [run_fetchList hq]
  refine ⟨calls ++ [⟨.query, q.key, p.toQuery⟩], _, ?_, slot?_ask_put hq .., htraced.key_eq, htraced.form_eq, ?_, ?_⟩
  · show (Store.call q.key p.toQuery b.source).2 = _
    rw [Store.after_append, ← hcalls, Store.after_query]
  · exact hp.symm
  · refine .inr ⟨calls, [], ?_, ?_⟩
    · rw [hp, htraced.key_eq]
    · rw [hp, ← hcalls, ← htraced.key_eq]
      rfl

theorem Traced.refetchList (h : b.Traced c s₀ i asked) : ((Binder.refetchList i).run b).2.Traced c s₀ i asked := by
  have ⟨_, q, _, hq, htraced⟩ := h
  have hrun : (Binder.refetchList i).run b = (Binder.fetchList i q.refetchParams).run b := by
    simp [Binder.refetchList, Routine.run, list?_of_slot? hq]
  rw [hrun]
  exact h.fetchList htraced.params_eq.symm

/-- What is fetched again is the query itself, which asks for the same once more, or another one. -/
theorem Traced.refresh (h : b.Traced c s₀ i asked) {j : Nat} {q : LiveQuery} (hlist : j = i → ∃ l, q = .list l)
    (key : String) : ((Binder.refresh j q key).run b).2.Traced c s₀ i asked := by
  by_cases hj : j = i
  · subst hj
    obtain ⟨l, rfl⟩ := hlist rfl
    have hrun : ((Binder.refresh j (.list l) key).run b).2 = ((Binder.refetchList j).run b).2 := by
      simp [Binder.refresh, Routine.run_bind]
    rw [hrun]
    exact h.refetchList
  · let I (b' : Binder Store) := b'.slot? i = b.slot? i ∧ ∃ more, b'.source = b.source.after more
    have hallows : Allows j I fun _ b' => I b' := by
      refine ⟨fun _ hb => hb, fun b' k params hb => ⟨hb.1, ?_⟩, fun b' q hb => ⟨?_, hb.2⟩⟩
      · obtain ⟨more, hmore⟩ := hb.2
        refine ⟨more ++ [⟨.query, k, params⟩], ?_⟩
        rw [Store.after_append, ← hmore]
        rfl
      · exact (slot?_put_of_ne hj b' q).trans hb.1
    obtain ⟨hslot, hsource⟩ := Preserves.run (hallows.refresh q key) ⟨rfl, [], rfl⟩
    exact h.aside hslot hsource

theorem Traced.invalidate (h : b.Traced c s₀ i asked) (keys : List String) :
    ((Binder.invalidate keys).run b).2.Traced c s₀ i asked := by
  have hheld (change : Nat → Binder Store → Binder Store) (hsource : ∀ j b, (change j b).source = b.source)
      (hslot : ∀ j b, (change j b).slot? i = b.slot? i) (found : List (Nat × LiveQuery × String)) (b : Binder Store)
      (hb : b.Traced c s₀ i asked) : (found.foldl (fun b e => change e.1 b) b).Traced c s₀ i asked := by
    refine hb.aside ?_ ⟨[], ?_⟩
    · exact view_foldl (slot? · i) (fun b e => hslot e.1 b) found b
    · exact view_foldl source (fun b e => hsource e.1 b) found b
  have hlist : ∀ e ∈ b.dependents keys, e.1 = i → ∃ l, e.2.1 = .list l := by
    rintro ⟨j, q, key⟩ hmem rfl
    obtain ⟨r, hr, -, -, -, rfl⟩ := mem_dependents.mp hmem
    obtain ⟨-, l, -, hl, -⟩ := h
    rw [slot?, hr] at hl
    exact ⟨l, Option.some.inj hl⟩
  have hprompt : ∀ r ∈ (b.dependents keys).map fun e => (Binder.refresh e.1 e.2.1 e.2.2 : Routine (Binder Store) Unit),
      r.Prompt := by
    intro r hr
    obtain ⟨e, -, rfl⟩ := List.mem_map.mp hr
    exact prompt_refresh _ _ _
  rw [run_invalidate_eq]
  refine hheld release (fun _ _ => rfl) (fun j b => slot?_release b j i) _ _ ?_
  rw [Routine.run_all hprompt, List.foldl_map]
  -- The store answers at once, so what is found is fetched again one after the other.
  refine List.foldlRecOn (motive := Traced c s₀ i asked) _ _ ?_ fun b' hb' e he => hb'.refresh (hlist e he) e.2.2
  exact hheld retain (fun _ _ => rfl) (fun j b => slot?_retain b j i) _ b h

theorem Traced.mutate (h : b.Traced c s₀ i asked) (key : String) (params : Json) (invalidates : List String) :
    ((Binder.mutate key params invalidates).run b).2.Traced c s₀ i asked := by
  have htold : (tell key params b).2.Traced c s₀ i asked := h.aside rfl ⟨[⟨.mutate, key, params⟩], rfl⟩
  rw [run_mutate]
  cases (Store.call key params b.source).1 with
  | error e => exact htold
  | ok v =>
    simp only
    split
    · exact htold.invalidate invalidates
    · exact htold

end Binder

/-! ## Histories -/

namespace ListScreen

/-- What can happen while a list screen is there. -/
inductive Event where
  | enter (input : ListInput)
  | refresh
  /-- A mutation, on whatever screen. -/
  | mutate (key : String) (params : Json) (invalidates : List String)
  | invalidate (keys : List String)
  /-- Anything that others do beside the query of the screen. -/
  | aside (change : Engine Store → Engine Store)

namespace Event

/-- Others leave a query alone, and change the store by calls only. -/
def Allowed (i : Nat) : Event → Prop
  | aside change => ∀ e, (change e).binder.slot? i = e.binder.slot? i ∧
      ∃ calls, (change e).binder.source = e.binder.source.after calls
  | enter _ | refresh | mutate .. | invalidate _ => True

/-- What the event does to the engine. -/
def routine (s : ListScreen R) : Event → Routine (Engine Store) Unit
  | enter _ => .done ()
  | refresh => s.refresh.bind fun _ => .done ()
  | mutate key params invalidates => (Engine.onBinder (Binder.mutate key params invalidates)).bind fun _ => .done ()
  | invalidate keys => (Engine.onBinder (Binder.invalidate keys)).bind fun _ => .done ()
  | aside change => .modify change

omit [Record R] in
theorem prompt_routine (s : ListScreen R) (event : Event) : (event.routine s).Prompt := by
  cases event with
  | enter input => exact prompt_done _
  | refresh => exact ((Binder.prompt_fetchList _ _).zoom _ _).bind fun _ => prompt_done _
  | mutate key params invalidates => exact ((Binder.prompt_mutate _ _ _).zoom _ _).bind fun _ => prompt_done _
  | invalidate keys => exact ((Binder.prompt_invalidate _).zoom _ _).bind fun _ => prompt_done _
  | aside change => exact prompt_modify _

end Event

/-- A list screen and the engine that it runs on. -/
structure Session (R : Type) where
  screen : ListScreen R
  engine : Engine Store

namespace Session

/-- A screen that was just made. -/
def start (c : ListConfig R) (e : Engine Store) : Session R := ⟨(ListScreen.start c e).1, (ListScreen.start c e).2⟩

def step (t : Session R) (event : Event) : Session R where
  screen := match event with
    | .enter input => t.screen.enter input
    | _ => t.screen
  engine := ((event.routine t.screen).run t.engine).2

/-- The session after some events. -/
def after (t : Session R) (events : List Event) : Session R := events.foldl step t

omit [Record R] in
theorem after_append (t : Session R) (before later : List Event) :
    t.after (before ++ later) = (t.after before).after later :=
  List.foldl_append

/-- The query of the screen was last asked for `asked`. -/
structure Traced (c : ListConfig R) (s₀ : Store) (i : Nat) (asked : Option ListParams) (t : Session R) : Prop where
  config : t.screen.config = c
  query : t.screen.query = i
  binder : t.engine.binder.Traced c s₀ i asked

variable {c : ListConfig R} {s₀ : Store} {i : Nat} {asked : Option ListParams} {t : Session R} {event : Event}

theorem traced_start (c : ListConfig R) (e : Engine Store) :
    Traced c e.binder.source (ListScreen.start c e).1.query none (start c e) where
  config := rfl
  query := rfl
  binder := by
    refine ⟨[], _, rfl, Binder.slot?_register_self .., rfl, rfl, rfl, .inl ⟨rfl, rfl⟩⟩

/-- Whatever happens but a refresh, the query was last asked for the same. -/
theorem Traced.step (h : Traced c s₀ i asked t) (hallowed : event.Allowed i) (hevent : event ≠ .refresh) :
    Traced c s₀ i asked (t.step event) := by
  obtain ⟨hconfig, hquery, hbinder⟩ := h
  cases event with
  | enter input =>
    cases input with
    | sort key order => exact ⟨(config_setSort ..).trans hconfig, (query_setSort ..).trans hquery, hbinder⟩
    | _ => exact ⟨hconfig, hquery, hbinder⟩
  | refresh => exact absurd rfl hevent
  | mutate key params invalidates =>
    refine ⟨hconfig, hquery, ?_⟩
    simp only [Session.step, Event.routine, run_bind, run_done, Engine.run_onBinder]
    exact hbinder.mutate key params invalidates
  | invalidate keys =>
    refine ⟨hconfig, hquery, ?_⟩
    simp only [Session.step, Event.routine, run_bind, run_done, Engine.run_onBinder]
    exact hbinder.invalidate keys
  | aside change =>
    obtain ⟨hslot, hsource⟩ := hallowed t.engine
    exact ⟨hconfig, hquery, hbinder.aside hslot hsource⟩

omit [Record R] in
theorem binder_refresh (t : Session R) : (t.step .refresh).engine.binder =
    ((Binder.fetchList t.screen.query t.screen.params).run t.engine.binder).2 := by
  simp only [step, Event.routine, ListScreen.refresh, run_bind, run_done, Engine.run_onBinder]

/-- A refresh asks for what the screen asks for. -/
theorem Traced.refresh (h : Traced c s₀ i asked t) : Traced c s₀ i (some t.screen.params) (t.step .refresh) := by
  obtain ⟨hconfig, rfl, hbinder⟩ := h
  refine ⟨hconfig, rfl, ?_⟩
  rw [binder_refresh]
  exact hbinder.fetchList rfl

theorem Traced.after (h : Traced c s₀ i asked t) {events : List Event} (hallowed : ∀ event ∈ events, event.Allowed i)
    (hquiet : .refresh ∉ events) : Traced c s₀ i asked (t.after events) := by
  induction events generalizing t with
  | nil => exact h
  | cons event rest ih =>
    obtain ⟨hevent, hrest⟩ := List.forall_mem_cons.mp hallowed
    have hne : event ≠ .refresh := fun heq => hquiet (heq ▸ List.mem_cons_self)
    exact ih (h.step hevent hne) hrest fun hmem => hquiet (List.mem_cons_of_mem event hmem)

theorem Traced.exists_after (h : Traced c s₀ i asked t) {events : List Event}
    (hallowed : ∀ event ∈ events, event.Allowed i) : ∃ asked', Traced c s₀ i asked' (t.after events) := by
  induction events generalizing t asked with
  | nil => exact ⟨asked, h⟩
  | cons event rest ih =>
    obtain ⟨hevent, hrest⟩ := List.forall_mem_cons.mp hallowed
    by_cases hrefresh : event = .refresh
    · subst hrefresh
      exact ih h.refresh hrest
    · exact ih (h.step hevent hrefresh) hrest

/-- The last of the refreshes is what the query was last asked for. -/
theorem Traced.after_refresh (h : Traced c s₀ i asked t) {before later : List Event}
    (hallowed : ∀ event ∈ before ++ .refresh :: later, event.Allowed i) (hquiet : .refresh ∉ later) :
    Traced c s₀ i (some (t.after before).screen.params) (t.after (before ++ .refresh :: later)) := by
  obtain ⟨hbefore, hafter⟩ := List.forall_mem_append.mp hallowed
  obtain ⟨asked', hasked⟩ := h.exists_after hbefore
  rw [after_append]
  exact hasked.refresh.after (List.forall_mem_cons.mp hafter).2 hquiet

omit [Record R] in
/-- What happens at once, while nothing is entered, happens one after the other. -/
theorem run_all_events (t : Session R) {events : List Event}
    (hentered : ∀ event ∈ events, ∀ input, event ≠ .enter input) :
    ((Routine.all (events.map (·.routine t.screen))).run t.engine).2 = (t.after events).engine := by
  have hprompt : ∀ r ∈ events.map (·.routine t.screen), r.Prompt := by
    intro r hr
    obtain ⟨event, -, rfl⟩ := List.mem_map.mp hr
    exact event.prompt_routine t.screen
  rw [Routine.run_all hprompt, List.foldl_map]
  clear hprompt
  induction events generalizing t with
  | nil => rfl
  | cons event rest ih =>
    obtain ⟨hevent, hrest⟩ := List.forall_mem_cons.mp hentered
    have hscreen : (t.step event).screen = t.screen := by
      cases event with
      | enter input => exact absurd rfl (hevent input)
      | _ => rfl
    have hlater := ih (t.step event) hrest
    rw [hscreen] at hlater
    exact hlater

/-- The session shows what was answered when the store was asked for these parameters, which it was since `s₀`; `store`
is what the store was then. -/
structure Shows (s₀ : Store) (p : ListParams) (store : Store) (t : Session R) : Prop where
  asked : ∃ before later, store = s₀.after before ∧
    t.engine.binder.source = s₀.after (before ++ ⟨.query, t.screen.config.listQuery, p.toQuery⟩ :: later)
  shown : t.screen.Shows t.engine p store

/-- The routes of a store stay as they are. -/
theorem Shows.route {p : ListParams} {store : Store} (h : t.Shows s₀ p store) : store.routes = s₀.routes := by
  obtain ⟨before, -, rfl, -⟩ := h.asked
  exact (Store.calls_after s₀ before).2

/-- The screen shows what its query knows. -/
theorem Traced.shows (h : Traced c s₀ i asked t) :
    asked = none ∧ t.screen.state t.engine = .pending ∨ ∃ store, t.Shows s₀ (asked.getD {}) store := by
  obtain ⟨rfl, rfl, calls, q, hcalls, hq, htraced⟩ := h
  rcases htraced.known with ⟨hasked, hstate⟩ | ⟨before, later, rfl, hstate⟩
  · rw [state_of_slot hq, hstate]
    exact .inl ⟨hasked, rfl⟩
  · refine .inr ⟨s₀.after before, ⟨before, later, rfl, hcalls⟩, ?_⟩
    rw [ListScreen.Shows, state_of_slot hq, hstate, ListQuery.read, htraced.key_eq, htraced.form_eq]
    rfl

end Session

/-! ## The law -/

open Session in
/-- Over a store with a list route, whatever is entered on a list screen and whatever is refreshed, mutated or
invalidated, on this screen or elsewhere, the screen shows what the store answered to its last refresh, or to that asked
once more. This is a page, so it never shows more rows than a page has. Before the first refresh it shows nothing,
unless its query is invalidated; then it shows the whole collection, which it never asked for. What is started at once
comes to the same as one after the other. -/
theorem shows_requested_page [LawfulRecord R] (c : ListConfig R) (e : Engine Store) {collection : String}
    {fields : List String} (hroute : Dict.get? e.binder.source.routes c.listQuery = some (.list collection fields))
    {events : List Event} (hallowed : ∀ event ∈ events, event.Allowed (ListScreen.start c e).1.query) :
    let opened := Session.start c e
    let t := opened.after events
    let s₀ := e.binder.source
    (∀ before later, events = before ++ .refresh :: later → .refresh ∉ later →
      let p := (opened.after before).screen.params
      p.limit = some c.pageSize ∧ (∃ store, t.Shows s₀ p store) ∧
        ∀ rows, t.screen.rows t.engine = .ok rows → rows.length ≤ c.pageSize) ∧
    (.refresh ∉ events → ∀ rows, t.screen.rows t.engine = .ok rows →
      rows = [] ∨ ∃ store, t.Shows s₀ {} store ∧ rows.length = (store.records collection).length) ∧
    (∀ before burst, events = before ++ burst → (∀ event ∈ burst, ∀ input, event ≠ .enter input) →
      let reached := opened.after before
      ((Routine.all (burst.map (·.routine reached.screen))).run reached.engine).2 = t.engine) := by
  intro opened t s₀
  have hstart : Traced c s₀ opened.screen.query none opened := traced_start c e
  refine ⟨?_, fun hquiet rows hrows => ?_, ?_⟩
  · rintro before later rfl hquiet p
    have hlast : Traced c s₀ opened.screen.query (some p) t := hstart.after_refresh hallowed hquiet
    obtain ⟨asked, hbefore⟩ := hstart.exists_after (List.forall_mem_append.mp hallowed).1
    have hlimit : p.limit = some c.pageSize := hbefore.config ▸ params_limit _
    obtain ⟨store, hshows⟩ : ∃ store, t.Shows s₀ p store := hlast.shows.resolve_left nofun
    refine ⟨hlimit, ⟨store, hshows⟩, fun rows hrows => ?_⟩
    exact hshows.shown.length_rows_le (hlast.config ▸ hshows.route ▸ hroute) hlimit hrows
  · have hfirst : Traced c s₀ opened.screen.query none t := hstart.after hallowed hquiet
    rcases hfirst.shows with ⟨-, hpending⟩ | ⟨store, hshows⟩
    · exact .inl (rows_of_pending hpending hrows)
    · have hlength := hshows.shown.length_rows_default (hfirst.config ▸ hshows.route ▸ hroute) hrows
      exact hlength.imp_right fun h => ⟨store, hshows, h⟩
  · rintro before burst rfl hentered reached
    rw [show t = reached.after burst from opened.after_append before burst]
    exact reached.run_all_events hentered

/-- Three orders under a list that shows two of them on a page, and a key for changes that are of no matter to them. -/
def orders : Store where
  collections := [("orders", ["1", "2", "3"].map fun number => .object [("id", .string number)])]
  routes := [("orders", .list "orders" []), ("touch", .value .null)]

/-- Orders as the store has them, two on a page. -/
def ordersByTwo : ListConfig JsonRecord := { ordersList with pageSize := 2, defaultSort := none }

open Session in
/-- A change elsewhere fetches the page again that was asked for. -/
theorem shows_requested_page_orders :
    let e : Engine Store := { binder := { source := orders } }
    let opened := Session.start ordersByTwo e
    let events : List Event := [.enter (.page 1), .refresh, .mutate "touch" .null ["orders"]]
    let t := opened.after events
    Dict.get? orders.routes ordersByTwo.listQuery = some (.list "orders" []) ∧
      (∀ event ∈ events, event.Allowed opened.screen.query) ∧
      (∃ store, t.Shows orders { limit := some 2, offset := 2 } store) ∧
      ∀ rows, t.screen.rows t.engine = .ok rows → rows.length ≤ 2 := by
  intro e opened events t
  have hroute : Dict.get? e.binder.source.routes ordersByTwo.listQuery = some (.list "orders" []) := rfl
  have hallowed : ∀ event ∈ events, event.Allowed opened.screen.query := by simp [events, Event.Allowed]
  obtain ⟨-, hshows, hrows⟩ := (shows_requested_page ordersByTwo e hroute hallowed).1 [.enter (.page 1)]
    [.mutate "touch" .null ["orders"]] rfl (by simp)
  exact ⟨hroute, hallowed, hshows, hrows⟩

open Session in
/-- A screen of a list that was built asks for nothing before it is refreshed, and shows more than a page. -/
theorem shows_unrequested_list :
    let draft : ListDraft JsonRecord := {
      entityType := "order", title := some "Orders", baseRoute := some "/orders", listQuery := some "orders"
      filters := ordersList.filters, columns := ordersList.columns, pageSize := 2
      emptyState := some { title := "No orders" } }
    let opened := Session.start ordersByTwo { binder := { source := orders } }
    let events : List Event := [.mutate "touch" .null ["orders"]]
    let t := opened.after events
    draft.build = .ok ordersByTwo ∧ Dict.get? orders.routes ordersByTwo.listQuery = some (.list "orders" []) ∧
      (∀ event ∈ events, event.Allowed opened.screen.query) ∧ .refresh ∉ events ∧
      (t.screen.rows t.engine).map List.length = .ok 3 ∧ ordersByTwo.pageSize < 3 := by
  refine ⟨rfl, rfl, ?_, ?_, by decide +kernel, by decide⟩
  · simp [Event.Allowed]
  · simp

end ListScreen

end RecordScreens
