import RecordScreens.Proofs.Query.Overlap
import RecordScreens.Proofs.Query.Refetch
import RecordScreens.Proofs.Query.Refreshed
import RecordScreens.Proofs.Routine.Prompt
import RecordScreens.Record.Dynamic

/-!
# Fresh queries

A mutation of a store that succeeds leaves nothing stale: what depends on the keys that
it invalidates knows what a fetch from the changed store finds. Nothing else is touched.
-/

namespace RecordScreens

namespace Binder

variable {b b' b'' : Binder Store} {i : Nat} {key name : String} {params : Json}

/-! ## Runs of fetches -/

theorem run_query (key : String) (params : Json) (b : Binder Store) :
    (query key params).run b = ((Store.call key params b.source).1, (ask key params b).2) := rfl

theorem ask_put (key : String) (params : Json) (b : Binder Store) (i : Nat) (q : LiveQuery) :
    (ask key params (b.put i q)).2 = (ask key params b).2.put i q := rfl

theorem slot?_ask_put {old : LiveQuery} (h : b.slot? i = some old) (key : String) (params : Json) (q : LiveQuery) :
    ((ask key params b).2.put i q).slot? i = some q :=
  slot?_put_self (b := (ask key params b).2) q h

/-- A fetch of a page from a store, which answers at once. -/
theorem run_fetchList {q : ListQuery} (h : b.slot? i = some (.list q)) (p : ListParams) :
    let result := q.read p (Store.call q.key p.toQuery b.source).1
    let settled := q.issued + 1
    (fetchList i p).run b = (.ofResult result, (ask q.key p.toQuery b).2.put i
      (.list { q.begin p with settled, watch := q.watch.send (.ofResult result) })) := by
  have hbegun (q' : ListQuery) := list?_of_slot? (slot?_ask_put h q.key p.toQuery (.list q'))
  simp [fetchList, Routine.run, Routine.run_bind, Routine.modify, run_query, settleList, ask_put, put_put,
    list?_of_slot? h, hbegun, ListQuery.begin, ListQuery.settle, ListQuery.read]

theorem run_refetchList {q : ListQuery} (h : b.slot? i = some (.list q)) :
    ((refetchList i).run b).2 = (ask q.key q.refetchParams.toQuery b).2.put i (.list (q.refetched b.source)) := by
  have hrun : (refetchList i).run b = (fetchList i q.refetchParams).run b := by
    simp [refetchList, Routine.run, list?_of_slot? h]
  rw [hrun, run_fetchList h]
  rfl

theorem run_fetchSingle {q : RecordQuery} (h : b.slot? i = some (.record q)) :
    (fetchSingle i).run b = (.ofResult (q.read (Store.call q.key (RecordQuery.params q.id) b.source).1),
      (ask q.key (RecordQuery.params q.id) b).2.put i (.record (q.refetched b.source))) := by
  have hbegun (q' : RecordQuery) := record?_of_slot? (slot?_ask_put h q.key (RecordQuery.params q.id) (.record q'))
  simp [fetchSingle, Routine.run, Routine.run_bind, Routine.modify, run_query, settleSingle, ask_put, put_put,
    record?_of_slot? h, hbegun, RecordQuery.begin, RecordQuery.settle, RecordQuery.read, RecordQuery.refetched,
    RecordQuery.fetched]

theorem run_refetchName {a : AggregateQuery} {d : QueryDescriptor} (h : b.slot? i = some (.aggregate a))
    (hd : Dict.get? a.queries name = some d) :
    ((refetchName i name).run b).2 =
      (ask d.queryKey (d.bind a.entityId) b).2.put i (.aggregate (a.refetchedName b.source name)) := by
  have hbegun (a' : AggregateQuery) :=
    aggregate?_of_slot? (slot?_ask_put h d.queryKey (d.bind a.entityId) (.aggregate a'))
  simp [refetchName, Routine.run, Routine.run_bind, Routine.modify, run_query, updateAggregate, ask_put, put_put,
    aggregate?_of_slot? h, hd, hbegun, AggregateQuery.beginName, AggregateQuery.issuedFor, AggregateQuery.settleName,
    AggregateQuery.refetchedName, AggregateQuery.fetched]

/-! ## Fetches that never wait -/

theorem prompt_query (key : String) (params : Json) : (query key params : Routine (Binder Store) _).Prompt :=
  fun _ _ => Routine.prompt_done _

theorem prompt_fetchList (i : Nat) (p : ListParams) : (fetchList i p : Routine (Binder Store) _).Prompt := by
  unfold fetchList
  refine Routine.prompt_act fun b => ?_
  cases b.list? i with
  | none => exact Routine.prompt_done _
  | some q =>
    exact (Routine.prompt_modify _).bind fun _ => (prompt_query _ _).bind fun _ => Routine.prompt_step _

theorem prompt_fetchSingle (i : Nat) : (fetchSingle i : Routine (Binder Store) _).Prompt := by
  unfold fetchSingle
  refine Routine.prompt_act fun b => ?_
  cases b.record? i with
  | none => exact Routine.prompt_done _
  | some q =>
    exact (Routine.prompt_modify _).bind fun _ => (prompt_query _ _).bind fun _ => Routine.prompt_step _

theorem prompt_refetchName (i : Nat) (name : String) : (refetchName i name : Routine (Binder Store) _).Prompt := by
  unfold refetchName
  refine Routine.prompt_act fun b => ?_
  cases b.aggregate? i with
  | none => exact Routine.prompt_done _
  | some a =>
    simp only
    cases Dict.get? a.queries name with
    | none => exact Routine.prompt_done _
    | some d =>
      exact (Routine.prompt_modify _).bind fun _ => (prompt_query _ _).bind fun _ =>
        (Routine.prompt_modify _).bind fun _ => Routine.prompt_done _

theorem prompt_refresh (i : Nat) (q : LiveQuery) (key : String) :
    (refresh i q key : Routine (Binder Store) _).Prompt := by
  cases q with
  | list q => exact (Routine.prompt_act fun _ => prompt_fetchList i _).bind fun _ => Routine.prompt_done _
  | record q => exact (prompt_fetchSingle i).bind fun _ => Routine.prompt_done _
  | aggregate a =>
    refine (Routine.prompt_sequence fun r hr => ?_).bind fun _ => Routine.prompt_done _
    obtain ⟨name, -, rfl⟩ := List.mem_map.mp hr
    exact prompt_refetchName i name

theorem prompt_invalidate (keys : List String) : (invalidate keys : Routine (Binder Store) _).Prompt := by
  unfold invalidate
  refine Routine.prompt_act fun b => (Routine.prompt_all fun r hr => ?_).bind fun _ =>
    (Routine.prompt_modify _).bind fun _ => Routine.prompt_done _
  obtain ⟨e, -, rfl⟩ := List.mem_map.mp hr
  exact prompt_refresh _ _ _

theorem prompt_mutate (key : String) (params : Json) (invalidates : List String) :
    (mutate key params invalidates : Routine (Binder Store) _).Prompt := by
  intro b _
  show (concluded invalidates (Store.call key params b.source).1).Prompt
  cases (Store.call key params b.source).1 with
  | error e => exact Routine.prompt_done _
  | ok v =>
    simp only [concluded]
    split
    · exact (prompt_invalidate invalidates).bind fun _ => Routine.prompt_done _
    · exact Routine.prompt_done _

/-! ## One query after the other -/

/-- One query of a binder becomes another, and nothing else changes but the log of the store. -/
structure Turns (i : Nat) (q : LiveQuery) (b b' : Binder Store) : Prop where
  same : b.source.Same b'.source
  held : b'.held = b.held
  here : b'.slot? i = some q
  elsewhere : ∀ j ≠ i, b'.slot? j = b.slot? j

variable {q q' : LiveQuery}

theorem Turns.refl (h : b.slot? i = some q) : Turns i q b b := ⟨.refl b.source, rfl, h, fun _ _ => rfl⟩

theorem Turns.trans (h : Turns i q b b') (h' : Turns i q' b' b'') : Turns i q' b b'' :=
  ⟨h.same.trans h'.same, h'.held.trans h.held, h'.here, fun j hj => (h'.elsewhere j hj).trans (h.elsewhere j hj)⟩

theorem turns_ask_put (h : b.slot? i = some q) (hreads : b.source.OnlyReads key) (params : Json) (q' : LiveQuery) :
    Turns i q' b ((ask key params b).2.put i q') where
  same := .call hreads params
  held := held_put
  here := slot?_ask_put h key params q'
  elsewhere _ hj := slot?_put_of_ne hj.symm _ _

theorem turns_refetchNames {a : AggregateQuery} {names : List String} (h : b.slot? i = some (.aggregate a))
    (hnames : ∀ name ∈ names, ∃ d, Dict.get? a.queries name = some d ∧ b.source.OnlyReads d.queryKey) :
    Turns i (.aggregate (names.foldl (AggregateQuery.refetchedName b.source) a)) b
      (names.foldl (fun b name => ((refetchName i name).run b).2) b) := by
  induction names generalizing a b with
  | nil => exact .refl h
  | cons name rest ih =>
    obtain ⟨⟨d, hd, hreads⟩, hrest⟩ := List.forall_mem_cons.mp hnames
    let asked := (ask d.queryKey (d.bind a.entityId) b).2.put i (.aggregate (a.refetchedName b.source name))
    have hfirst : Turns i (.aggregate (a.refetchedName b.source name)) b asked := turns_ask_put h hreads _ _
    have hnext := ih hfirst.here fun n hn => by
      obtain ⟨d', hd', hreads'⟩ := hrest n hn
      exact ⟨d', by simpa using hd', hreads'.of_same hfirst.same⟩
    rw [AggregateQuery.refetchedName_of_same hfirst.same] at hnext
    rw [List.foldl_cons, List.foldl_cons, run_refetchName h hd]
    exact hfirst.trans hnext

/-- Fetching again turns a query into one that is fresh under the key. -/
theorem turns_refresh (key : String) (h : b.slot? i = some q) (hordered : q.Ordered)
    (hreads : ∀ k ∈ q.queryKeys, b.source.OnlyReads k) :
    Turns i (q.refetched b.source key) b ((refresh i q key).run b).2 := by
  cases q with
  | list q =>
    have hrun : ((refresh i (.list q) key).run b).2 = ((refetchList i).run b).2 := by
      simp [refresh, Routine.run_bind]
    rw [hrun, run_refetchList h]
    exact turns_ask_put h (hreads q.key (List.mem_singleton_self _)) _ _
  | record q =>
    have hrun : ((refresh i (.record q) key).run b).2 = ((fetchSingle i).run b).2 := by
      simp [refresh, Routine.run_bind]
    rw [hrun, run_fetchSingle h]
    exact turns_ask_put h (hreads q.key (List.mem_singleton_self _)) _ _
  | aggregate a =>
    have hrun : ((refresh i (.aggregate a) key).run b).2 =
        (a.namesOf key).foldl (fun b name => ((refetchName i name).run b).2) b := by
      simp [refresh, refetchNames, Routine.run_bind, Routine.run_sequence, List.foldl_map]
    rw [hrun]
    refine turns_refetchNames h fun name hname => ?_
    obtain ⟨d, hd, -⟩ := (AggregateQuery.mem_namesOf hordered).mp hname
    exact ⟨d, hd, hreads _ (AggregateQuery.queryKey_mem_queryKeys hd)⟩

/-! ## All that depends on some keys -/

/-- The keys for which a query is among those to be fetched again. -/
def keysOf (i : Nat) (found : List (Nat × LiveQuery × String)) : List String := (found.filter (·.1 = i)).map (·.2.2)

theorem mem_keysOf {found : List (Nat × LiveQuery × String)} : key ∈ keysOf i found ↔ ∃ q, (i, q, key) ∈ found := by
  simp [keysOf]

/-- A query that can be fetched again without a change of the store. -/
structure Refreshable (s : Store) (q : LiveQuery) : Prop where
  ordered : q.Ordered
  reads : ∀ k ∈ q.queryKeys, s.OnlyReads k

/-- The binder `b` is `b₀` after some queries have been fetched again, each under the keys that are found for it. -/
structure Renewed (s : Store) (b₀ : Binder Store) (found : List (Nat × LiveQuery × String)) (b : Binder Store) :
    Prop where
  same : s.Same b.source
  held : b.held = b₀.held
  slots : ∀ i, b.slot? i = (b₀.slot? i).map fun q => (keysOf i found).foldl (fun q k => q.refetched s k) q

variable {s : Store} {b₀ : Binder Store} {found : List (Nat × LiveQuery × String)}

theorem Renewed.refresh (h : Renewed s b₀ found b) (hq : b₀.slot? i = some q) (hfresh : Refreshable s q)
    (hfound : ∀ k ∈ keysOf i found, k ∈ q.queryKeys) :
    Renewed s b₀ (found ++ [(i, q, key)]) ((refresh i q key).run b).2 := by
  have hslot := h.slots i
  rw [hq] at hslot
  -- The query in this place asks for what `q` asks for, so it is fetched again in the same way.
  have hrefreshed : q.Refreshed s (keysOf i found) _ := LiveQuery.refreshed_foldl hfresh.ordered hfound
  have hturns := turns_refresh key hslot (hrefreshed.ordered hfresh.ordered) fun k hk =>
    (hfresh.reads k (hrefreshed.queryKeys_eq ▸ hk)).of_same h.same
  rw [hrefreshed.refresh_eq, LiveQuery.refetched_of_same h.same] at hturns
  refine ⟨h.same.trans hturns.same, hturns.held.trans h.held, fun j => ?_⟩
  by_cases hj : j = i
  · subst hj
    simp [hturns.here, hq, keysOf]
  · simp [hturns.elsewhere j hj, h.slots j, keysOf, Ne.symm hj]

/-- Queries that are fetched again one after the other are fresh under the keys of all of them. -/
theorem renewed_foldl (hsame : s.Same b₀.source)
    (hfound : ∀ i q key, (i, q, key) ∈ found → b₀.slot? i = some q ∧ Refreshable s q ∧ key ∈ q.queryKeys) :
    Renewed s b₀ found (found.foldl (fun b e => ((refresh e.1 e.2.1 e.2.2).run b).2) b₀) := by
  induction found using List.reverseRecOn with
  | nil => exact ⟨hsame, rfl, fun i => by simp [keysOf]⟩
  | append_singleton found e ih =>
    obtain ⟨i, q, key⟩ := e
    obtain ⟨hq, hfresh, -⟩ := hfound i q key (by simp)
    rw [List.foldl_append]
    refine (ih fun i q key hmem => hfound i q key (List.mem_append_left _ hmem)).refresh hq hfresh fun k hk => ?_
    obtain ⟨q', hmem⟩ := mem_keysOf.mp hk
    obtain ⟨hq', -, hkey⟩ := hfound i q' k (List.mem_append_left _ hmem)
    cases hq.symm.trans hq'
    exact hkey

/-- The store answers at once, so what depends on some keys is fetched again one after the other. -/
theorem renewed_invalidate {keys : List String}
    (h : ∀ i q key, (i, q, key) ∈ b.dependents keys → Refreshable b.source q) :
    Renewed b.source b (b.dependents keys) ((invalidate keys).run b).2 := by
  let found := b.dependents keys
  let retained := found.foldl (fun b e => b.retain e.1) b
  let fetched := ((Routine.all (found.map fun e => refresh e.1 e.2.1 e.2.2)).run retained).2
  have hsource : retained.source = b.source := by
    apply view_foldl source
    exact fun _ _ => rfl
  have hslot (i : Nat) : retained.slot? i = b.slot? i := by
    apply view_foldl (slot? · i)
    exact fun b e => slot?_retain b e.1 i
  have hfetched : fetched = found.foldl (fun b e => ((refresh e.1 e.2.1 e.2.2).run b).2) retained := by
    have hprompt : ∀ r ∈ found.map fun e => (refresh e.1 e.2.1 e.2.2 : Routine (Binder Store) Unit), r.Prompt := by
      intro r hr
      obtain ⟨e, -, rfl⟩ := List.mem_map.mp hr
      exact prompt_refresh _ _ _
    exact (Routine.run_all hprompt retained).trans List.foldl_map
  have hrenewed : Renewed b.source retained found fetched := by
    rw [hfetched]
    refine renewed_foldl ⟨congrArg Store.collections hsource, congrArg Store.routes hsource⟩ fun i q key hmem => ?_
    obtain ⟨r, hr, -, hkey, -, rfl⟩ := mem_dependents.mp hmem
    exact ⟨(hslot i).trans (Option.map_eq_some_iff.mpr ⟨r, hr, rfl⟩), h i _ key hmem, hkey⟩
  have hrun : ((invalidate keys).run b).2 = found.foldl (fun b e => b.release e.1) fetched := run_invalidate_eq keys b
  have hreleased : ((invalidate keys).run b).2.source = fetched.source := by
    rw [hrun]
    apply view_foldl source
    exact fun _ _ => rfl
  refine ⟨hreleased ▸ hrenewed.same, ?_, fun i => ?_⟩
  · rw [hrun]
    exact held_release_retain _ _ hrenewed.held
  · have hkept : ((invalidate keys).run b).2.slot? i = fetched.slot? i := by
      rw [hrun]
      apply view_foldl (slot? · i)
      exact fun b e => slot?_release b e.1 i
    rw [hkept, hrenewed.slots, hslot]

theorem Renewed.getElem? (h : Renewed s b₀ found b) {r : Registered} (hr : b₀.queries[i]? = some r) :
    b.queries[i]? = some { r with query := (keysOf i found).foldl (fun q k => q.refetched s k) r.query } := by
  have hslot : b.slot? i = some ((keysOf i found).foldl (fun q k => q.refetched s k) r.query) := by
    rw [h.slots, slot?, hr]
    rfl
  have hheld : (b.queries[i]?).map (·.holders) = some r.holders := by
    have hsame : b.held[i]? = b₀.held[i]? := by rw [h.held]
    simpa [Binder.held, hr] using hsame
  obtain ⟨r', hr', hquery⟩ := Option.map_eq_some_iff.mp hslot
  have hholders : r'.holders = r.holders := by simpa [hr'] using hheld
  rw [hr', ← hquery, ← hholders]

/-! ## Mutations -/

/-- A mutation that succeeds changes the store, and then all that depends on its keys is fetched again. -/
theorem renewed_mutate {params v : Json} {invalidates : List String}
    (hok : ((mutate key params invalidates).run b).1 = .ok v)
    (h : ∀ r ∈ b.queries, r.live = true → Refreshable b.source r.query) :
    Renewed (Store.call key params b.source).2 b (b.dependents invalidates)
      ((mutate key params invalidates).run b).2 := by
  rw [run_mutate] at hok ⊢
  cases hcall : (Store.call key params b.source).1 with
  | error e =>
    rw [hcall] at hok
    cases hok
  | ok w =>
    by_cases hnone : invalidates = []
    · subst hnone
      have hfound : b.dependents [] = [] := by simp [dependents]
      simp only [ne_eq, not_true, if_false, hfound]
      exact ⟨.refl _, rfl, fun i => (Option.map_id' (x := b.slot? i)).symm⟩
    · simp only [ne_eq, hnone, not_false_eq_true, if_true]
      let told := (tell key params b).2
      have hrenewed : Renewed told.source told (told.dependents invalidates) ((invalidate invalidates).run told).2 := by
        refine renewed_invalidate fun i q k hmem => ?_
        obtain ⟨r, hr, hlive, -, -, rfl⟩ := mem_dependents.mp hmem
        have hfresh := h r (List.mem_of_getElem? hr) hlive
        exact ⟨hfresh.ordered, hfresh.reads⟩
      exact ⟨hrenewed.same, hrenewed.held, hrenewed.slots⟩

/-- What someone holds is fresh under the keys after a mutation that succeeds, whatever was fetched before, and
everything else is as it was. -/
theorem mutate_refreshes {params v : Json} {invalidates : List String}
    (hok : ((mutate key params invalidates).run b).1 = .ok v)
    (h : ∀ r ∈ b.queries, r.live = true → Refreshable b.source r.query) :
    let told := (Store.call key params b.source).2
    let b' := ((mutate key params invalidates).run b).2
    told.Same b'.source ∧ b'.queries.length = b.queries.length ∧
      ∀ (i : Nat) (r : Registered), b.queries[i]? = some r → ∃ q, b'.queries[i]? = some { r with query := q } ∧
        (r.live = true → r.query.Refreshed told invalidates q) ∧
        (r.live = false ∨ (∀ k ∈ r.query.queryKeys, k ∉ invalidates) → q = r.query) := by
  intro told b'
  have hrenewed : Renewed told b (b.dependents invalidates) b' := renewed_mutate hok h
  have hlength : b'.queries.length = b.queries.length := by
    simpa [Binder.held] using congrArg List.length hrenewed.held
  refine ⟨hrenewed.same, hlength, fun i r hr => ⟨_, hrenewed.getElem? hr, ?_⟩⟩
  have hkeys (k : String) :
      k ∈ keysOf i (b.dependents invalidates) ↔ r.live = true ∧ k ∈ r.query.queryKeys ∧ k ∈ invalidates := by
    simp [mem_keysOf, mem_dependents, hr]
  refine ⟨fun hlive => ?_, fun hnone => ?_⟩
  · have hfresh := h r (List.mem_of_getElem? hr) hlive
    refine (LiveQuery.refreshed_foldl hfresh.ordered fun k hk => ((hkeys k).mp hk).2.1).congr fun k hk => ?_
    simp [hkeys, hlive, hk]
  · have hempty : keysOf i (b.dependents invalidates) = [] := by
      refine List.eq_nil_iff_forall_not_mem.mpr fun k hk => ?_
      obtain ⟨hlive, hkey, hkeys⟩ := (hkeys k).mp hk
      rcases hnone with hdead | hnone
      · simp [hlive] at hdead
      · exact hnone k hkey hkeys
    simp [hempty]

/-- Two open deals under a list, a record and an aggregate, none of which has been fetched. -/
def dealDesk : Binder Store where
  source := {
    collections := [("deals", ["a", "b"].map fun id => .object [("id", .string id), ("status", .string "open")])]
    routes := [("deal", .get "deals"), ("deals", .list "deals" []), ("move", .setStatus "deals"),
      ("openDeals", .matching "deals" "status")] }
  queries := [
    { query := .list (.ofRecords JsonRecord "deals") },
    { query := .record (.ofRecord JsonRecord "deal" "a") },
    { query := .aggregate (.ofQueries [("all", { queryKey := "deals" }),
      ("open", { queryKey := "openDeals", params := [("status", .string "open")] })] none) }]

/-- A deal is won. The record and the open deals know of it, the list and the other name of the aggregate are as they
were. -/
theorem mutate_refreshes_dealDesk :
    let deal (id status : String) : Json := .object [("id", .string id), ("status", .string status)]
    let params := deal "a" "won"
    let ran := (mutate "move" params ["deal", "openDeals"]).run dealDesk
    ran.1 = .ok (deal "a" "won") ∧ (∀ r ∈ dealDesk.queries, r.live = true → Refreshable dealDesk.source r.query) ∧
      ran.2.slot? 0 = dealDesk.slot? 0 ∧ (ran.2.record? 1).map (·.state) = some (.data (deal "a" "won")) ∧
      (ran.2.aggregate? 2).map (Dict.get? ·.result "open") = some (some (.data (.array [deal "b" "open"]))) ∧
      (ran.2.aggregate? 2).map (Dict.get? ·.result "all") = some (some .pending) := by
  intro deal params ran
  have hok : ran.1 = .ok (deal "a" "won") := congrArg Prod.fst (run_mutate ..)
  have hqueries : ∀ r ∈ dealDesk.queries, r.live = true → Refreshable dealDesk.source r.query := by
    have hdeal : dealDesk.source.OnlyReads "deal" := fun collection h => by cases h
    have hdeals : dealDesk.source.OnlyReads "deals" := fun collection h => by cases h
    have hopen : dealDesk.source.OnlyReads "openDeals" := fun collection h => by cases h
    have hnames : Dict.Sorted [("all", ({ queryKey := "deals" } : QueryDescriptor)),
        ("open", { queryKey := "openDeals", params := [("status", .string "open")] })] :=
      List.pairwise_pair.mpr (by decide)
    simp only [dealDesk, List.forall_mem_cons]
    refine ⟨fun _ => ⟨trivial, ?_⟩, fun _ => ⟨trivial, ?_⟩, fun _ => ⟨hnames, ?_⟩, by simp⟩
    · exact List.forall_mem_singleton.mpr hdeals
    · exact List.forall_mem_singleton.mpr hdeal
    · exact List.forall_mem_cons.mpr ⟨hdeals, List.forall_mem_singleton.mpr hopen⟩
  obtain ⟨-, -, hall⟩ := mutate_refreshes hok hqueries
  refine ⟨hok, hqueries, ?_, ?_, ?_⟩
  · obtain ⟨q, hq, -, hkept⟩ := hall 0 _ rfl
    have hsame := hkept (.inr (by decide))
    rw [slot?, hq, hsame]
    rfl
  · obtain ⟨q, hq, hfresh, -⟩ := hall 1 _ rfl
    cases hfresh rfl with
    | @record _ q hkey hform hid hstate =>
      have hrecord : ran.2.record? 1 = some q := by rw [record?, hq]
      rw [hrecord, Option.map_some, hstate]
      rfl
  · obtain ⟨q, hq, hfresh, -⟩ := hall 2 _ rfl
    cases hfresh rfl with
    | @aggregate _ a hqueries hentity hresult =>
      have haggregate : ran.2.aggregate? 2 = some a := by rw [aggregate?, hq]
      simp only [haggregate, Option.map_some, hresult]
      exact ⟨rfl, rfl⟩

end Binder

end RecordScreens
