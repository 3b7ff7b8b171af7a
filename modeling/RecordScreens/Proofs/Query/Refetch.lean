import RecordScreens.Proofs.Positions
import RecordScreens.Proofs.Query.Mutation
import RecordScreens.Proofs.Source.Changes

/-!
# What is fetched again from a store

A mutation of a store that succeeds fetches again what depends on its keys. These are
queries, but a store takes a query on a key that sets statuses for a mutation if it has
an id and a status among its parameters. Lists and records never have both; the parts
of an aggregate have what they are declared with.
-/

namespace RecordScreens

/-! ## What queries ask for -/

/-- What a query asks for, whatever it knows: its keys, and the parts of an aggregate with their entity. -/
def LiveQuery.outline (q : LiveQuery) : List String × Option (Dict QueryDescriptor × Option String) :=
  match q with
  | .aggregate a => (q.queryKeys, some (a.queries, a.entityId))
  | _ => (q.queryKeys, none)

/-- Whether a query that is fetched again for a key sets a status in a collection. -/
def LiveQuery.Sets (s : Store) (collection key : String) (q : LiveQuery) : Prop :=
  ∃ a, q = .aggregate a ∧ ∃ name ∈ a.namesOf key, ∃ d, Dict.get? a.queries name = some d ∧
    s.Sets collection d.queryKey (d.bind a.entityId)

namespace LiveQuery

variable {q q' : LiveQuery} {s t : Store} {collection key : String}

theorem queryKeys_of_outline (h : q.outline = q'.outline) : q.queryKeys = q'.queryKeys := by
  have hkeys := congrArg Prod.fst h
  cases q <;> cases q' <;> exact hkeys

theorem outline_eq_aggregate {a : AggregateQuery} (h : q.outline = (LiveQuery.aggregate a).outline) :
    ∃ a', q = .aggregate a' ∧ a'.queries = a.queries ∧ a'.entityId = a.entityId := by
  cases q with
  | aggregate a' =>
    obtain ⟨hqueries, hentity⟩ := Prod.mk.inj (Option.some.inj (congrArg Prod.snd h))
    exact ⟨a', rfl, hqueries, hentity⟩
  | list q => cases congrArg Prod.snd h
  | record q => cases congrArg Prod.snd h

theorem Sets.of_outline (h : q.Sets s collection key) (houtline : q.outline = q'.outline)
    (hsets : ∀ key params, s.Sets collection key params → t.Sets collection key params) :
    q'.Sets t collection key := by
  obtain ⟨a, rfl, name, hname, d, hd, hset⟩ := h
  obtain ⟨a', rfl, hqueries, hentity⟩ := outline_eq_aggregate houtline.symm
  refine ⟨a', rfl, name, ?_, d, ?_, ?_⟩
  · unfold AggregateQuery.namesOf
    rwa [hqueries]
  · rwa [hqueries]
  · rw [hentity]
    exact hsets _ _ hset

end LiveQuery

/-- Fetches of lists and records set no status. -/
theorem ListParams.not_sets {s : Store} {collection key : String} (p : ListParams) :
    ¬ s.Sets collection key p.toQuery := by
  rintro ⟨-, ⟨id, hid⟩, -⟩
  have hnone : p.toQuery.get? "id" = none := by
    unfold toQuery Json.get?
    cases p.sortBy <;> cases p.limit <;> simp [Dict.get?_insert, Dict.get?]
  rw [hnone] at hid
  cases hid

theorem RecordQuery.not_sets {s : Store} {collection key : String} (id : String) :
    ¬ s.Sets collection key (params id) := by
  rintro ⟨-, -, status, hstatus⟩
  cases hstatus

namespace Binder

/-! ## Outlines and holders -/

section

variable {S : Type} {b : Binder S} {i : Nat} {q : LiveQuery}

/-- What the queries of a binder ask for. -/
def outlines (b : Binder S) : List (List String × Option (Dict QueryDescriptor × Option String)) :=
  b.queries.map (·.query.outline)

/-- How many hold each query. -/
def held (b : Binder S) : List Nat := b.queries.map (·.holders)

theorem outline_of_list? {l : ListQuery} (h : b.list? i = some l) :
    b.outlines[i]? = some (LiveQuery.list l).outline := by
  unfold list? at h
  split at h
  · rename_i hq
    cases h
    simp [outlines, hq]
  · cases h

theorem outline_of_record? {r : RecordQuery} (h : b.record? i = some r) :
    b.outlines[i]? = some (LiveQuery.record r).outline := by
  unfold record? at h
  split at h
  · rename_i hq
    cases h
    simp [outlines, hq]
  · cases h

theorem outline_of_aggregate? {a : AggregateQuery} (h : b.aggregate? i = some a) :
    b.outlines[i]? = some (LiveQuery.aggregate a).outline := by
  unfold aggregate? at h
  split at h
  · rename_i hq
    cases h
    simp [outlines, hq]
  · cases h

/-- What is known of a query has no bearing on what it asks for. -/
theorem outlines_put (h : b.outlines[i]? = some q.outline) : (b.put i q).outlines = b.outlines := by
  refine List.ext_getElem? fun j => ?_
  simp only [outlines, put, List.getElem?_map, List.getElem?_modify] at h ⊢
  by_cases hj : i = j
  · subst hj
    cases hr : b.queries[i]? with
    | none => rfl
    | some r =>
      rw [hr] at h
      simpa [eq_comm] using h
  · cases b.queries[j]? <;> simp [hj]

theorem outlines_updateAggregate {f : AggregateQuery → AggregateQuery}
    (hf : ∀ a, (f a).queries = a.queries ∧ (f a).entityId = a.entityId) :
    (b.updateAggregate i f).outlines = b.outlines := by
  unfold updateAggregate
  split
  · rename_i a ha
    refine outlines_put ((outline_of_aggregate? ha).trans (congrArg some ?_))
    obtain ⟨hqueries, hentity⟩ := hf a
    simp [LiveQuery.outline, LiveQuery.queryKeys, AggregateQuery.queryKeys, hqueries, hentity]
  · rfl

@[simp] theorem outlines_retain : (b.retain i).outlines = b.outlines := by
  apply map_modify_of_eq
  exact fun _ => rfl

@[simp] theorem outlines_release : (b.release i).outlines = b.outlines := by
  apply map_modify_of_eq
  exact fun _ => rfl

@[simp] theorem held_put : (b.put i q).held = b.held := by
  apply map_modify_of_eq
  exact fun _ => rfl

@[simp] theorem held_updateAggregate (f : AggregateQuery → AggregateQuery) : (b.updateAggregate i f).held = b.held := by
  unfold updateAggregate
  split
  · exact held_put
  · rfl

theorem held_retain : (b.retain i).held = b.held.modify i (· + 1) := by
  apply map_modify
  exact fun _ => rfl

theorem held_release : (b.release i).held = b.held.modify i (· - 1) := by
  apply map_modify
  exact fun _ => rfl

/-- Queries that were held for a while are held by as many as before. -/
theorem held_release_retain {α : Type} {b b' : Binder S} (found : List α) (idx : α → Nat)
    (h : b'.held = (found.foldl (fun b a => b.retain (idx a)) b).held) :
    (found.foldl (fun b a => b.release (idx a)) b').held = b.held := by
  have hretain (b : Binder S) : (found.foldl (fun b a => b.retain (idx a)) b).held =
      (found.map idx).foldl (·.modify · (· + 1)) b.held := by
    rw [List.foldl_map]
    exact (List.foldl_hom held fun _ _ => held_retain.symm).symm
  have hrelease (b : Binder S) : (found.foldl (fun b a => b.release (idx a)) b).held =
      (found.map idx).foldl (·.modify · (· - 1)) b.held := by
    rw [List.foldl_map]
    exact (List.foldl_hom held fun _ _ => held_release.symm).symm
  rw [hrelease, h, hretain]
  exact foldl_modify_foldl_modify (fun n => Nat.add_sub_cancel n 1) _ _

end

/-! ## Fetches from a store -/

/-- A binder whose store has the same routes and the same values in a collection as another one, and whose queries
ask for the same and are held by as many. -/
structure Alike (collection : String) (b₀ b : Binder Store) : Prop where
  routes : b.source.routes = b₀.source.routes
  records : b.source.records collection = b₀.source.records collection
  outlines : b.outlines = b₀.outlines
  held : b.held = b₀.held

variable {collection key : String} {params : Json} {b₀ b : Binder Store} {i : Nat} {q : LiveQuery}

theorem Alike.refl (collection : String) (b : Binder Store) : Alike collection b b := ⟨rfl, rfl, rfl, rfl⟩

theorem Alike.put (h : Alike collection b₀ b) (hq : b₀.outlines[i]? = some q.outline) :
    Alike collection b₀ (b.put i q) :=
  ⟨h.routes, h.records, (outlines_put (h.outlines ▸ hq)).trans h.outlines, held_put.trans h.held⟩

theorem Alike.updateAggregate (h : Alike collection b₀ b) {f : AggregateQuery → AggregateQuery}
    (hf : ∀ a, (f a).queries = a.queries ∧ (f a).entityId = a.entityId) :
    Alike collection b₀ (b.updateAggregate i f) := by
  have hsource : (b.updateAggregate i f).source = b.source := by
    unfold Binder.updateAggregate
    split <;> rfl
  exact ⟨hsource ▸ h.routes, hsource ▸ h.records, (outlines_updateAggregate hf).trans h.outlines,
    (held_updateAggregate f).trans h.held⟩

theorem Alike.ask (h : Alike collection b₀ b) (hsets : ¬ b₀.source.Sets collection key params) :
    Alike collection b₀ (b.ask key params).2 := by
  refine ⟨h.routes, Eq.trans ?_ h.records, h.outlines, h.held⟩
  exact Store.records_call fun hset => hsets ((Store.sets_congr h.routes).mp hset)

theorem preserves_query (h : ¬ b₀.source.Sets collection key params) :
    (query key params).Preserves (Alike collection b₀) :=
  preserves_query_of_ask fun _ hb => hb.ask h

theorem preserves_fetchList (i : Nat) (p : ListParams) : (fetchList i p).Preserves (Alike collection b₀) := by
  unfold fetchList
  refine Routine.steps_act (fun _ hb => hb) fun b hb => ?_
  cases hq : b.list? i with
  | none => exact Routine.steps_done _
  | some q =>
    have houtline := outline_of_list? hq
    rw [hb.outlines] at houtline
    apply (Routine.steps_modify fun _ hb => hb.put houtline).bind
    intro _
    apply (preserves_query p.not_sets).bind
    intro answer
    apply Routine.steps_step
    intro b hb
    unfold settleList
    split
    · exact hb
    · rename_i q hq
      refine hb.put ?_
      rw [← hb.outlines, outline_of_list? hq]
      unfold ListQuery.settle
      split <;> rfl

theorem preserves_fetchSingle (i : Nat) : (fetchSingle i).Preserves (Alike collection b₀) := by
  unfold fetchSingle
  refine Routine.steps_act (fun _ hb => hb) fun b hb => ?_
  cases hq : b.record? i with
  | none => exact Routine.steps_done _
  | some q =>
    have houtline := outline_of_record? hq
    rw [hb.outlines] at houtline
    apply (Routine.steps_modify fun _ hb => hb.put houtline).bind
    intro _
    apply (preserves_query (RecordQuery.not_sets _)).bind
    intro answer
    apply Routine.steps_step
    intro b hb
    unfold settleSingle
    split
    · exact hb
    · rename_i q hq
      refine hb.put ?_
      rw [← hb.outlines, outline_of_record? hq]
      unfold RecordQuery.settle
      split <;> rfl

/-- A part of an aggregate is fetched again with what it is declared with. -/
theorem preserves_refetchName {name : String}
    (h : ∀ a d, b₀.outlines[i]? = some (LiveQuery.aggregate a).outline → Dict.get? a.queries name = some d →
      ¬ b₀.source.Sets collection d.queryKey (d.bind a.entityId)) :
    (refetchName i name).Preserves (Alike collection b₀) := by
  unfold refetchName
  refine Routine.steps_act (fun _ hb => hb) fun b hb => ?_
  cases ha : b.aggregate? i with
  | none => exact Routine.steps_done _
  | some a =>
    simp only
    cases hd : Dict.get? a.queries name with
    | none => exact Routine.steps_done _
    | some d =>
      have hsets := h a d (hb.outlines ▸ outline_of_aggregate? ha) hd
      apply (Routine.steps_modify fun _ hb => hb.updateAggregate fun _ => ⟨rfl, rfl⟩).bind
      intro _
      apply (preserves_query hsets).bind
      intro answer
      refine (Routine.steps_modify fun _ hb => hb.updateAggregate fun a => ?_).bind fun _ => Routine.steps_done _
      unfold AggregateQuery.settleName
      split <;> exact ⟨rfl, rfl⟩

theorem preserves_refresh (hq : b₀.outlines[i]? = some q.outline) (h : ¬ q.Sets b₀.source collection key) :
    (refresh i q key).Preserves (Alike collection b₀) := by
  cases q with
  | list q =>
    refine (Routine.steps_act (fun _ hb => hb) fun b _ => preserves_fetchList i _).bind fun _ => Routine.steps_done _
  | record q => exact (preserves_fetchSingle i).bind fun _ => Routine.steps_done _
  | aggregate a =>
    refine (Routine.steps_sequence fun r hr => ?_).bind fun _ => Routine.steps_done _
    obtain ⟨name, hname, rfl⟩ := List.mem_map.mp hr
    refine preserves_refetchName fun a' d ha' hd hsets => h ?_
    obtain ⟨a'', ha'', hqueries, hentity⟩ := LiveQuery.outline_eq_aggregate (Option.some.inj (hq.symm.trans ha'))
    cases ha''
    exact ⟨a, rfl, name, hname, d, hqueries ▸ hd, hentity ▸ hsets⟩

/-! ## Mutations of a store -/

theorem mem_dependents {S : Type} {b : Binder S} {keys : List String} :
    (i, q, key) ∈ b.dependents keys ↔
      ∃ r, b.queries[i]? = some r ∧ r.live = true ∧ key ∈ r.query.queryKeys ∧ key ∈ keys ∧ q = r.query := by
  unfold dependents
  simp only [List.mem_flatMap, Prod.exists, List.mem_zipIdx_iff_getElem?]
  constructor
  · rintro ⟨r, j, hr, hmem⟩
    by_cases hlive : r.live = true
    · rw [if_pos hlive] at hmem
      obtain ⟨k, hk, heq⟩ := List.mem_map.mp hmem
      cases heq
      obtain ⟨hkeys, hcontains⟩ := List.mem_filter.mp hk
      exact ⟨r, hr, hlive, hkeys, List.contains_iff_mem.mp hcontains, rfl⟩
    · rw [if_neg hlive] at hmem
      cases hmem
  · rintro ⟨r, hr, hlive, hkeys, hcontains, rfl⟩
    refine ⟨r, i, hr, ?_⟩
    rw [if_pos hlive]
    exact List.mem_map.mpr ⟨key, List.mem_filter.mpr ⟨hkeys, List.contains_iff_mem.mpr hcontains⟩, rfl⟩

/-- What is fetched again for some keys sets no status in a collection. -/
def Reads (collection : String) (keys : List String) (b : Binder Store) : Prop :=
  ∀ i q key, (i, q, key) ∈ b.dependents keys → ¬ q.Sets b.source collection key

theorem Reads.of_outlines {keys : List String} (h : b₀.Reads collection keys) (houtlines : b.outlines = b₀.outlines)
    (hheld : b.held = b₀.held)
    (hsets : ∀ key params, b.source.Sets collection key params → b₀.source.Sets collection key params) :
    b.Reads collection keys := by
  intro i q key hmem hq
  obtain ⟨r, hr, hlive, hkey, hkeys, rfl⟩ := mem_dependents.mp hmem
  have houtline : (b₀.queries[i]?).map (·.query.outline) = some r.query.outline := by
    rw [← List.getElem?_map, ← outlines, ← houtlines, outlines, List.getElem?_map, hr]
    rfl
  have hholders : (b₀.queries[i]?).map (·.holders) = some r.holders := by
    rw [← List.getElem?_map, ← held, ← hheld, held, List.getElem?_map, hr]
    rfl
  obtain ⟨r₀, hr₀, hsame⟩ := Option.map_eq_some_iff.mp houtline
  rw [hr₀] at hholders
  have hcount : r₀.holders = r.holders := Option.some.inj hholders
  have hlive₀ : r₀.live = true := by
    rw [← hlive, Registered.live, Registered.live, hcount]
  refine h i r₀.query key (mem_dependents.mpr ⟨r₀, hr₀, hlive₀, ?_, hkeys, rfl⟩) ?_
  · rwa [LiveQuery.queryKeys_of_outline hsame]
  · exact hq.of_outline hsame.symm hsets

/-- What is found is held, fetched again at once, and released. -/
theorem run_invalidate_eq (keys : List String) (b : Binder Store) :
    ((invalidate keys).run b).2 =
      (b.dependents keys).foldl (fun b found => b.release found.1)
        ((Routine.all ((b.dependents keys).map fun found => refresh found.1 found.2.1 found.2.2)).run
          ((b.dependents keys).foldl (fun b found => b.retain found.1) b)).2 := by
  unfold invalidate
  simp only [Routine.run, Routine.bind_eq, Routine.run_bind]
  rfl

/-- Fetching again what sets no status changes nothing but what the queries know. -/
theorem run_invalidate {keys : List String} (h : b.Reads collection keys) :
    Alike collection b ((invalidate keys).run b).2 := by
  let retained := (b.dependents keys).foldl (fun b found => b.retain found.1) b
  let fetched :=
    ((Routine.all ((b.dependents keys).map fun found => refresh found.1 found.2.1 found.2.2)).run retained).2
  have hrun : ((invalidate keys).run b).2 = (b.dependents keys).foldl (fun b found => b.release found.1) fetched :=
    run_invalidate_eq keys b
  have hsource : retained.source = b.source := by
    apply view_foldl source
    exact fun _ _ => rfl
  have houtlines : retained.outlines = b.outlines := by
    apply view_foldl outlines
    exact fun _ _ => outlines_retain
  -- The queries are held while they are fetched again, which asks nothing that sets a status.
  have hfetched : Alike collection retained fetched := by
    refine Routine.Preserves.run (Routine.steps_all fun r hr => ?_) (Alike.refl collection retained)
    obtain ⟨⟨i, q, key⟩, hmem, rfl⟩ := List.mem_map.mp hr
    refine preserves_refresh ?_ (hsource ▸ h i q key hmem)
    obtain ⟨found, hfound, -, -, -, rfl⟩ := mem_dependents.mp hmem
    rw [houtlines, outlines, List.getElem?_map, hfound]
    rfl
  have hreleased : ((invalidate keys).run b).2.source = fetched.source := by
    rw [hrun]
    apply view_foldl source
    exact fun _ _ => rfl
  refine ⟨?_, ?_, ?_, ?_⟩
  · rw [hreleased, hfetched.routes, hsource]
  · rw [hreleased, hfetched.records, hsource]
  · rw [hrun, ← houtlines, ← hfetched.outlines]
    apply view_foldl outlines
    exact fun _ _ => outlines_release
  · rw [hrun]
    exact held_release_retain _ _ hfetched.held

/-- A store answers at once, so a mutation is over when what depends on it has been fetched again. -/
theorem run_mutate (key : String) (params : Json) (invalidates : List String) (b : Binder Store) :
    (mutate key params invalidates).run b =
      match (Store.call key params b.source).1 with
      | .error e => (.error e, (tell key params b).2)
      | .ok v =>
        let told := (tell key params b).2
        (.ok v, if invalidates ≠ [] then ((invalidate invalidates).run told).2 else told) := by
  have htold : (Routine.step (tell key params)).run b =
      (⟨(Store.call key params b.source).1, none⟩, (tell key params b).2) := rfl
  have hawait (result : Except QueryError Json) (b : Binder Store) :
      (await key ⟨result, none⟩).run b = (result, b) := rfl
  unfold mutate
  simp only [Routine.bind_eq, Routine.run_bind, htold, hawait]
  cases (Store.call key params b.source).1 with
  | error e => rfl
  | ok v =>
    simp only
    split
    · simp only [Routine.run_bind]
      rfl
    · rfl

/-- A mutation that succeeds changes nothing but what the store makes of it if nothing that is fetched again sets a
status. -/
theorem run_mutate_ok {v : Json} {invalidates : List String} (h : (Store.call key params b.source).1 = .ok v)
    (hreads : b.Reads collection invalidates) :
    ((mutate key params invalidates).run b).1 = .ok v ∧
      Alike collection (tell key params b).2 ((mutate key params invalidates).run b).2 := by
  rw [run_mutate, h]
  refine ⟨rfl, ?_⟩
  simp only
  split
  · refine run_invalidate (hreads.of_outlines rfl rfl fun key params hset => ?_)
    exact (Store.sets_congr Store.routes_call).mp hset
  · exact Alike.refl ..

end Binder

end RecordScreens
