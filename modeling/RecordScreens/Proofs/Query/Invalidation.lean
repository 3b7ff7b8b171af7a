import Mathlib.Data.List.Perm.Basic
import Mathlib.Data.Set.Card
import RecordScreens.Proofs.Query.Lifetimes
import RecordScreens.Proofs.Query.Requests

/-!
# What an invalidation asks for

Queries come and go, and some keys are invalidated. Then each query that someone still
holds asks once for what it has of these keys, however often a key was given and however
many names of an aggregate share one.
-/

namespace RecordScreens

/-! ## Keys -/

namespace LiveQuery

/-- The query has something of the key. -/
def DependsOn (key : String) : LiveQuery → Prop
  | list q => q.key = key
  | record q => q.key = key
  | aggregate a => ∃ entry ∈ a.queries, entry.2.queryKey = key

theorem nodup_queryKeys (q : LiveQuery) : q.queryKeys.Nodup := by
  cases q with
  | list q => exact List.nodup_singleton _
  | record q => exact List.nodup_singleton _
  | aggregate a => exact Dict.nodup_keys (Dict.sorted_ofList _)

theorem mem_queryKeys {q : LiveQuery} {key : String} : key ∈ q.queryKeys ↔ q.DependsOn key := by
  cases q with
  | list q => exact List.mem_singleton.trans eq_comm
  | record q => exact List.mem_singleton.trans eq_comm
  | aggregate a =>
    show key ∈ Dict.keys (Dict.ofList _) ↔ _
    rw [Dict.mem_keys_ofList]
    simp [DependsOn]

/-- What is asked for key by key is what is asked for all of them. -/
theorem requests_flatMap (q : LiveQuery) (keys : List String) :
    ((q.queryKeys.filter keys.contains).flatMap fun key => q.requests [key]).Perm (q.requests keys) := by
  have hone (key : String) (request : Option String × SourceCall) :
      (([key].filter keys.contains).flatMap fun k => if key ∈ [k] then [request] else []) =
        if key ∈ keys then [request] else [] := by
    by_cases hkey : key ∈ keys <;> simp [hkey]
  cases q with
  | list q => exact .of_eq (hone _ _)
  | record q => exact .of_eq (hone _ _)
  | aggregate a =>
    let request (entry : String × QueryDescriptor) : Option String × SourceCall :=
      (some entry.1, ⟨.query, entry.2.queryKey, entry.2.bind a.entityId⟩)
    let wanted := (LiveQuery.aggregate a).queryKeys.filter keys.contains
    have hrequests (k : String) :
        (LiveQuery.aggregate a).requests [k] = (a.queries.filter (·.2.queryKey = k)).map request := by
      simp [requests, request]
    have hwanted : a.queries.filter (·.2.queryKey ∈ wanted) = a.queries.filter (·.2.queryKey ∈ keys) := by
      refine List.filter_congr fun e he => ?_
      have hmem : e.2.queryKey ∈ (LiveQuery.aggregate a).queryKeys := mem_queryKeys.mpr ⟨e, he, rfl⟩
      simp [wanted, hmem]
    have hperm := flatMap_filter_perm ((nodup_queryKeys (.aggregate a)).filter keys.contains) (·.2.queryKey) a.queries
    rw [hwanted] at hperm
    simp only [hrequests, ← List.map_flatMap]
    exact hperm.map request

end LiveQuery

namespace Binder

variable {S : Type}

/-! ## Places -/

/-- What someone holds, each with its place. -/
def places (b : Binder S) : List (Registered × Nat) := b.queries.zipIdx.filter (·.1.live)

theorem pairwise_places (b : Binder S) : b.places.Pairwise fun e e' => e.2 ≠ e'.2 := by
  have hplaces : (b.queries.zipIdx.map (·.2)).Nodup := by
    rw [List.zipIdx_map_snd]
    exact List.nodup_range'
  exact (List.pairwise_map.mp hplaces).filter _

theorem mem_places {b : Binder S} {r : Registered} {i : Nat} :
    (r, i) ∈ b.places ↔ b.queries[i]? = some r ∧ r.live = true := by
  simp only [places, List.mem_filter, List.mem_zipIdx_iff_getElem?]

theorem map_places (b : Binder S) : b.places.map (·.1) = b.queries.filter (·.live) := by
  conv => rhs; rw [← List.zipIdx_map_fst 0 b.queries, List.filter_map]
  rfl

theorem dependents_eq (keys : List String) (b : Binder S) :
    b.dependents keys = b.places.flatMap fun e =>
      (e.1.query.queryKeys.filter keys.contains).map fun key => (e.2, e.1.query, key) := by
  unfold dependents places
  induction b.queries.zipIdx with
  | nil => rfl
  | cons e rest ih => cases hlive : e.1.live <;> simp [hlive, ih]

/-- No query is found twice for one key. -/
theorem nodup_dependents (keys : List String) (b : Binder S) :
    ((b.dependents keys).map fun found => (found.1, found.2.2)).Nodup := by
  rw [dependents_eq, List.map_flatMap, List.nodup_flatMap]
  constructor
  · intro e _
    rw [List.map_map]
    exact ((LiveQuery.nodup_queryKeys e.1.query).filter _).map fun _ _ h => congrArg Prod.snd h
  · refine b.pairwise_places.imp ?_
    intro e e' hne p hp hp'
    simp only [List.map_map, List.mem_map] at hp hp'
    obtain ⟨key, -, rfl⟩ := hp
    obtain ⟨key', -, hp'⟩ := hp'
    exact hne (congrArg Prod.fst hp').symm

/-- What someone holds, fetched again key by key, makes the requests for all of the keys. -/
theorem requests_dependents {γ : Type} (shown : Nat → Option String × SourceCall → γ) (keys : List String)
    (b : Binder S) :
    ((b.dependents keys).flatMap fun found => (found.2.1.requests [found.2.2]).map (shown found.1)).Perm
      (b.places.flatMap fun e => (e.1.query.requests keys).map (shown e.2)) := by
  rw [dependents_eq, List.flatMap_assoc]
  refine List.Perm.flatMap_left _ fun e _ => ?_
  have hperm := (LiveQuery.requests_flatMap e.1.query keys).map (shown e.2)
  rwa [List.map_flatMap, ← List.flatMap_map (fun key => (e.2, e.1.query, key))
    (fun found => (found.2.1.requests [found.2.2]).map (shown found.1))] at hperm

theorem ncard_of_nodup {α : Type} [DecidableEq α] {l : List α} (h : l.Nodup) : {a | a ∈ l}.ncard = l.length := by
  rw [← List.coe_toFinset, Set.ncard_coe_finset, List.toFinset_card_of_nodup h]

theorem liveQueries_eq (b : Binder S) : b.liveQueries = {i | ∃ r, (r, i) ∈ b.places}.ncard := by
  have hmem : {i | ∃ r, (r, i) ∈ b.places} = {i | i ∈ b.places.map (·.2)} := by
    simp
  rw [hmem, ncard_of_nodup (List.pairwise_map.mpr b.pairwise_places), List.length_map]
  unfold liveQueries
  rw [List.countP_eq_length_filter, ← map_places, List.length_map]

theorem length_dependents (keys : List String) (b : Binder S) :
    (b.dependents keys).length =
      {p : Nat × String | (∃ r, (r, p.1) ∈ b.places ∧ r.query.DependsOn p.2) ∧ p.2 ∈ keys}.ncard := by
  have hmem : {p : Nat × String | (∃ r, (r, p.1) ∈ b.places ∧ r.query.DependsOn p.2) ∧ p.2 ∈ keys} =
      {p | p ∈ (b.dependents keys).map fun found => (found.1, found.2.2)} := by
    ext ⟨i, key⟩
    simp only [Set.mem_ofPred_eq, List.mem_map, Prod.exists, Prod.mk.injEq, mem_dependents, mem_places,
      LiveQuery.mem_queryKeys]
    constructor
    · rintro ⟨⟨r, ⟨hr, hlive⟩, hkey⟩, hkeys⟩
      exact ⟨i, r.query, key, ⟨r, hr, hlive, hkey, hkeys, rfl⟩, rfl, rfl⟩
    · rintro ⟨_, _, _, ⟨r, hr, hlive, hkey, hkeys, -⟩, rfl, rfl⟩
      exact ⟨⟨r, ⟨hr, hlive⟩, hkey⟩, hkeys⟩
  rw [hmem, ncard_of_nodup (nodup_dependents keys b), List.length_map]

/-! ## Invalidations -/

section

variable [DataSource S] {b : Binder (Logged S)} {time : Nat}

/-- An invalidation counts what it finds. -/
theorem result_invalidate (keys : List String) (others : Nat → Binder (Logged S) → Binder (Logged S)) (time : Nat)
    (b : Binder (Logged S)) : ((invalidate keys).beside others time b).result = (b.dependents keys).length := by
  let found := b.dependents keys
  have hends {α β : Type} (r : Routine (Binder (Logged S)) α) (r' : Routine (Binder (Logged S)) β) :
      (r.bind fun _ => r'.bind fun _ => .done found.length).Ends (· = found.length) :=
    (Routine.ends_true r).bind fun _ _ => (Routine.ends_true r').bind fun _ _ => rfl
  exact (hends _ _).result others time _

/-- What an invalidation finds is fetched again at once. -/
theorem calls_invalidate (keys : List String) (hordered : ∀ i q, b.slot? i = some q → q.Ordered) :
    (invalidate keys).Ensures (keepRequests _) (Calls (b.places.flatMap (·.1.query.calls keys))) time b := by
  refine asked_invalidate (fun b b' h _ => .of_slot? (congrFun h)) (fun _ _ _ _ _ => id) fun b' hb' _ => ?_
  have hsame : b.SameRequests b' := .of_slot? (congrFun hb')
  have hall : (Routine.all ((b.dependents keys).map fun e => refresh e.1 e.2.1 e.2.2)).Ensures (keepRequests _)
      (Calls ((b.dependents keys).flatMap fun e => e.2.1.calls [e.2.2])) time b' := by
    refine calls_all ?_
    rintro ⟨i, q, key⟩ hfound b'' hb''
    obtain ⟨r, hr, -, hkey, -, rfl⟩ := mem_dependents.mp hfound
    have hq : b.slot? i = some r.query := Option.map_eq_some_iff.mpr ⟨r, hr, rfl⟩
    exact calls_refresh hkey (hordered i _ hq) ((hsame.trans hb'') i _ hq)
  exact hall.weaken fun _ _ _ hsteps => hsteps.trans (requests_dependents (fun _ request => request.2) keys b)

end

/-! ## Histories -/

section

variable {history : List (Event S)} {b : Binder S} {i : Nat}

/-- What someone holds is what was made and has not been dropped. -/
theorem Lives.alive_iff (h : Lives history b) : (∃ r, (r, i) ∈ b.places) ↔ Alive history i := by
  have hheld {r : Registered} (hr : b.queries[i]? = some r) : r.live = true ↔ Alive history i := by
    have hn : b.held[i]? = some r.holders := by simp [Binder.held, hr]
    exact decide_eq_true_iff.trans (h.held_iff hn).2
  constructor
  · rintro ⟨r, hmem⟩
    obtain ⟨hr, hlive⟩ := mem_places.mp hmem
    exact (hheld hr).mp hlive
  · intro halive
    have hlt : i < b.queries.length := by
      have hlength : b.held.length = b.queries.length := by simp [Binder.held]
      rw [← hlength, h.length_eq]
      exact halive.lt
    have hr : b.queries[i]? = some b.queries[i] := List.getElem?_eq_getElem hlt
    exact ⟨_, mem_places.mpr ⟨hr, (hheld hr).mpr halive⟩⟩

theorem Lives.made_of_slot? (h : Lives history b) {q : LiveQuery} (hq : b.slot? i = some q) :
    ∃ q₀, (made history)[i]? = some q₀ ∧ q.outline = q₀.outline := by
  have houtline : ((made history).map (·.outline))[i]? = some q.outline := by
    obtain ⟨r, hr, rfl⟩ := Option.map_eq_some_iff.mp hq
    rw [← h.outlines_eq]
    simp [outlines, hr]
  obtain ⟨q₀, hq₀, hsame⟩ := Option.map_eq_some_iff.mp (List.getElem?_map.symm.trans houtline)
  exact ⟨q₀, hq₀, hsame.symm⟩

theorem Lives.ordered (h : Lives history b) {q : LiveQuery} (hq : b.slot? i = some q) : q.Ordered := by
  obtain ⟨q₀, hq₀, hsame⟩ := h.made_of_slot? hq
  obtain ⟨e, -, he⟩ := List.mem_filterMap.mp (List.mem_of_getElem? hq₀)
  cases e with
  | make new =>
    cases he
    exact new.ordered.of_outline hsame
  | drop => cases he
  | work => cases he

/-- The keys of what is alive are those that it was made with. -/
theorem Lives.depends_iff (h : Lives history b) {key : String} :
    (∃ r, (r, i) ∈ b.places ∧ r.query.DependsOn key) ↔
      Alive history i ∧ ∃ q, (made history)[i]? = some q ∧ q.DependsOn key := by
  have hsame {r : Registered} (hmem : (r, i) ∈ b.places) {q : LiveQuery} (hq : (made history)[i]? = some q) :
      r.query.DependsOn key ↔ q.DependsOn key := by
    have hslot : b.slot? i = some r.query := Option.map_eq_some_iff.mpr ⟨r, (mem_places.mp hmem).1, rfl⟩
    obtain ⟨q₀, hq₀, houtline⟩ := h.made_of_slot? hslot
    cases hq₀.symm.trans hq
    rw [← LiveQuery.mem_queryKeys, ← LiveQuery.mem_queryKeys, LiveQuery.queryKeys_of_outline houtline]
  constructor
  · rintro ⟨r, hmem, hkey⟩
    have halive := h.alive_iff.mp ⟨r, hmem⟩
    have hq := List.getElem?_eq_getElem halive.lt
    exact ⟨halive, _, hq, (hsame hmem hq).mp hkey⟩
  · rintro ⟨halive, q, hq, hkey⟩
    obtain ⟨r, hmem⟩ := h.alive_iff.mpr halive
    exact ⟨r, hmem, (hsame hmem hq).mpr hkey⟩

end

/-- Whatever queries were made and dropped before, an invalidation makes the calls of what is alive, each once, and
counts the keys that it finds. -/
theorem invalidate_reissues [DataSource S] (history : List (Event (Logged S))) (source : S) (timeout : Nat)
    (keys : List String) {others : Nat → Binder (Logged S) → Binder (Logged S)}
    (hothers : ∀ n (b : Binder (Logged S)), b.SameRequests (others n b)) :
    let b := after history { source := { source }, timeout }
    let ran := (invalidate keys).beside others 0 b
    (∃ live : List (Nat × LiveQuery), (live.map (·.1)).Nodup ∧
        (∀ i q, (i, q) ∈ live ↔ Alive history i ∧ b.slot? i = some q) ∧
        ((ran.steps.flatMap (·.asked)).map (·.call)).Perm (live.flatMap (·.2.calls keys))) ∧
      ran.result = {p : Nat × String |
        (Alive history p.1 ∧ ∃ q, (made history)[p.1]? = some q ∧ q.DependsOn p.2) ∧ p.2 ∈ keys}.ncard ∧
      b.liveQueries = {i | Alive history i}.ncard ∧ b.outlines = (made history).map (·.outline) := by
  intro b ran
  have hlives : Lives history b := lives_after history rfl
  refine ⟨⟨b.places.map fun e => (e.2, e.1.query), ?_, ?_, ?_⟩, ?_, ?_, hlives.outlines_eq⟩
  · rw [List.map_map]
    exact List.pairwise_map.mpr b.pairwise_places
  · intro i q
    have hplaces : (i, q) ∈ b.places.map (fun e => (e.2, e.1.query)) ↔ ∃ r, (r, i) ∈ b.places ∧ r.query = q := by
      simp
    rw [hplaces]
    constructor
    · rintro ⟨r, hmem, rfl⟩
      exact ⟨hlives.alive_iff.mp ⟨r, hmem⟩, Option.map_eq_some_iff.mpr ⟨r, (mem_places.mp hmem).1, rfl⟩⟩
    · rintro ⟨halive, hq⟩
      obtain ⟨r, hmem⟩ := hlives.alive_iff.mpr halive
      obtain ⟨r', hr', rfl⟩ := Option.map_eq_some_iff.mp hq
      cases (mem_places.mp hmem).1.symm.trans hr'
      exact ⟨r, hmem, rfl⟩
  · rw [List.flatMap_map]
    exact ((calls_invalidate keys fun i q hq => hlives.ordered hq).beside hothers).2
  · rw [result_invalidate, length_dependents]
    simp only [hlives.depends_iff]
  · rw [liveQueries_eq]
    simp only [hlives.alive_iff]

/-- A list and an aggregate of which two names share a key; the record was dropped. -/
def dealHistory : List (Event (Logged Scripted)) := [
  .make (.list "deals" some),
  .make (.aggregate [("open", { queryKey := "deal" }), ("all", { queryKey := "deals" }),
    ("deal", { queryKey := "deal", params := [("id", .string entityIdPlaceholder)] })] (some "7")),
  .make (.record "deal" "1" some), .drop 2]

/-- Two of the keys are found for the aggregate and one for the list, while others make more queries. -/
def dealsInvalidated : Ran (Binder (Logged Scripted)) Nat :=
  let script := [("deal", [{ delay := some 20 }, { delay := some 10 }])]
  let others (_ : Nat) (b : Binder (Logged Scripted)) := (b.register (.list { key := "deals", fullForm? := some })).2
  (invalidate ["deal", "deals", "deal", "other", "deals"]).beside others 0
    (after dealHistory { source := { source := { script } }, timeout := 15 })

/-- Each name that has one of the keys is asked for once. -/
theorem invalidate_reissues_deals :
    dealsInvalidated.result = 3 ∧
      (dealsInvalidated.steps.flatMap (·.asked)).map (fun taken => (taken.call.key, taken.call.params)) = [
        ("deals", ({} : ListParams).toQuery), ("deal", .object [("id", .string "7")]), ("deals", .object []),
        ("deal", .object [])] ∧
      {p : Nat × String | (Alive dealHistory p.1 ∧ ∃ q, (made dealHistory)[p.1]? = some q ∧ q.DependsOn p.2) ∧
        p.2 ∈ ["deal", "deals", "deal", "other", "deals"]}.ncard = 3 ∧
      {i | Alive dealHistory i}.ncard = 2 := by
  have hothers : ∀ (_ : Nat) (b : Binder (Logged Scripted)),
      b.SameRequests (b.register (.list { key := "deals", fullForm? := some })).2 := by
    intro _ b i q hq
    obtain ⟨r, hr, rfl⟩ := Option.map_eq_some_iff.mp hq
    exact ⟨r.query, Option.map_eq_some_iff.mpr ⟨r, getElem?_concat_of_some hr, rfl⟩, .refl _⟩
  obtain ⟨-, hcount, halive, -⟩ := invalidate_reissues dealHistory
    { script := [("deal", [{ delay := some 20 }, { delay := some 10 }])] } 15
    ["deal", "deals", "deal", "other", "deals"] hothers
  have hthree : dealsInvalidated.result = 3 := by decide +kernel
  refine ⟨hthree, by decide +kernel, hcount.symm.trans hthree, halive.symm.trans ?_⟩
  decide +kernel

end Binder

end RecordScreens
