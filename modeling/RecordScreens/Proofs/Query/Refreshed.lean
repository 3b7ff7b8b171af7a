import Mathlib.Data.List.Induction
import RecordScreens.Proofs.Dict
import RecordScreens.Proofs.Source.Changes
import RecordScreens.Query.Binder

/-!
# Queries that are fetched again

What a query knows once some of its keys have been fetched again from a store, told by
the query and the store alone.
-/

namespace RecordScreens

/-! ## What a fetch finds -/

namespace ListQuery

/-- What the query knows once it has fetched its last page again. -/
def fetched (s : Store) (q : ListQuery) : QueryState (Page Json) :=
  .ofResult (q.read q.refetchParams (Store.call q.key q.refetchParams.toQuery s).1)

/-- The query once it has fetched its last page again. -/
def refetched (s : Store) (q : ListQuery) : ListQuery :=
  { q with
    issued := q.issued + 1
    settled := q.issued + 1
    lastParams := some q.refetchParams
    watch := q.watch.send (q.fetched s) }

end ListQuery

namespace RecordQuery

/-- What the query knows once it has fetched its record again. -/
def fetched (s : Store) (q : RecordQuery) : QueryState Json :=
  .ofResult (q.read (Store.call q.key (params q.id) s).1)

/-- The query once it has fetched its record again. -/
def refetched (s : Store) (q : RecordQuery) : RecordQuery :=
  { q with issued := q.issued + 1, watch := q.watch.send (q.fetched s) }

end RecordQuery

namespace AggregateQuery

/-- What is known of a name once it has been fetched again. -/
def fetched (s : Store) (a : AggregateQuery) (name : String) : Option (QueryState Json) :=
  (Dict.get? a.queries name).map fun d => .ofResult (Store.call d.queryKey (d.bind a.entityId) s).1

/-- The aggregate once a name has been fetched again. -/
def refetchedName (s : Store) (a : AggregateQuery) (name : String) : AggregateQuery :=
  match a.fetched s name with
  | some state => (a.beginName name).publish name state
  | none => a

/-- The aggregate once all names that depend on a key have been fetched again. -/
def refetched (s : Store) (key : String) (a : AggregateQuery) : AggregateQuery :=
  (a.namesOf key).foldl (refetchedName s) a

variable {s : Store} {a : AggregateQuery} {key name n : String} {names : List String} {d : QueryDescriptor}

@[simp] theorem queries_refetchedName : (a.refetchedName s n).queries = a.queries := by
  unfold refetchedName
  split <;> rfl

@[simp] theorem entityId_refetchedName : (a.refetchedName s n).entityId = a.entityId := by
  unfold refetchedName
  split <;> rfl

@[simp] theorem fetched_refetchedName : (a.refetchedName s n).fetched s name = a.fetched s name := by
  simp [fetched]

theorem get?_refetchedName :
    Dict.get? (a.refetchedName s n).result name =
      if name = n then (a.fetched s name).or (Dict.get? a.result name) else Dict.get? a.result name := by
  cases hstate : a.fetched s n with
  | none =>
    have hsame : a.refetchedName s n = a := by simp [refetchedName, hstate]
    split <;> simp_all
  | some state =>
    have hresult : (a.refetchedName s n).result = Dict.insert a.result n state := by
      simp [refetchedName, hstate, publish, Watch.send, result, beginName]
    split
    · subst_vars
      simp [hresult, hstate]
    · rw [hresult, Dict.get?_insert_of_ne _ _ (Ne.symm ‹_›)]

theorem refetchedName_of_same {t : Store} (h : s.Same t) : refetchedName t = refetchedName s := by
  funext a name
  simp [refetchedName, fetched, h.call_eq]

theorem queries_foldl : (names.foldl (refetchedName s) a).queries = a.queries := by
  induction names generalizing a with
  | nil => rfl
  | cons n rest ih => exact ih.trans queries_refetchedName

theorem entityId_foldl : (names.foldl (refetchedName s) a).entityId = a.entityId := by
  induction names generalizing a with
  | nil => rfl
  | cons n rest ih => exact ih.trans entityId_refetchedName

theorem get?_foldl :
    Dict.get? (names.foldl (refetchedName s) a).result name =
      if name ∈ names then (a.fetched s name).or (Dict.get? a.result name) else Dict.get? a.result name := by
  induction names generalizing a with
  | nil => rfl
  | cons n rest ih =>
    rw [List.foldl_cons, ih, fetched_refetchedName, get?_refetchedName]
    by_cases hn : name = n <;> by_cases hrest : name ∈ rest <;> cases a.fetched s name <;> simp [hn, hrest]

theorem mem_namesOf (hordered : Dict.Sorted a.queries) :
    name ∈ a.namesOf key ↔ ∃ d, Dict.get? a.queries name = some d ∧ d.queryKey = key := by
  simp only [namesOf, Dict.keys, List.mem_map, List.mem_filter, beq_iff_eq, Prod.exists, exists_and_right,
    exists_eq_right]
  exact exists_congr fun d => and_congr_left fun _ => ⟨Dict.get?_of_mem hordered, Dict.mem_of_get?⟩

theorem queryKey_mem_queryKeys (h : Dict.get? a.queries name = some d) : d.queryKey ∈ a.queryKeys := by
  apply Dict.mem_keys_ofList.mpr
  rw [List.map_map]
  exact List.mem_map.mpr ⟨_, Dict.mem_of_get? h, rfl⟩

end AggregateQuery

namespace LiveQuery

/-- A query once what depends on a key has been fetched again. -/
def refetched (s : Store) (key : String) : LiveQuery → LiveQuery
  | list q => .list (q.refetched s)
  | record q => .record (q.refetched s)
  | aggregate a => .aggregate (a.refetched s key)

/-- The names of an aggregate are in order. -/
def Ordered : LiveQuery → Prop
  | aggregate a => Dict.Sorted a.queries
  | _ => True

/-- Of two queries that ask for the same, the second one knows what a fetch finds under the keys, and beyond them what
the first one knows. -/
inductive Refreshed (s : Store) (keys : List String) : LiveQuery → LiveQuery → Prop where
  | list {q q' : ListQuery} (hkey : q'.key = q.key) (hform : q'.fullForm? = q.fullForm?)
      (hparams : q'.refetchParams = q.refetchParams)
      (hstate : q'.state = if q.key ∈ keys then q.fetched s else q.state) :
      Refreshed s keys (.list q) (.list q')
  | record {q q' : RecordQuery} (hkey : q'.key = q.key) (hform : q'.fullForm? = q.fullForm?) (hid : q'.id = q.id)
      (hstate : q'.state = if q.key ∈ keys then q.fetched s else q.state) :
      Refreshed s keys (.record q) (.record q')
  | aggregate {a a' : AggregateQuery} (hqueries : a'.queries = a.queries) (hentity : a'.entityId = a.entityId)
      (hresult : ∀ name, Dict.get? a'.result name =
        if ∃ d ∈ Dict.get? a.queries name, d.queryKey ∈ keys then a.fetched s name else Dict.get? a.result name) :
      Refreshed s keys (.aggregate a) (.aggregate a')

variable {s t : Store} {q q' : LiveQuery} {key : String} {keys keys' : List String}

theorem refetched_of_same (h : s.Same t) (key : String) (q : LiveQuery) : q.refetched t key = q.refetched s key := by
  cases q with
  | list q => simp [refetched, ListQuery.refetched, ListQuery.fetched, h.call_eq]
  | record q => simp [refetched, RecordQuery.refetched, RecordQuery.fetched, h.call_eq]
  | aggregate a => simp [refetched, AggregateQuery.refetched, AggregateQuery.refetchedName_of_same h]

theorem Refreshed.refl (s : Store) (q : LiveQuery) : q.Refreshed s [] q := by
  cases q with
  | list q => exact .list rfl rfl rfl (by simp)
  | record q => exact .record rfl rfl rfl (by simp)
  | aggregate a => exact .aggregate rfl rfl (by simp)

/-- Only the keys of a query matter. -/
theorem Refreshed.congr (h : q.Refreshed s keys q') (hkeys : ∀ k ∈ q.queryKeys, k ∈ keys ↔ k ∈ keys') :
    q.Refreshed s keys' q' := by
  cases h with
  | list hkey hform hparams hstate =>
    exact .list hkey hform hparams (hstate.trans (if_congr (hkeys _ (List.mem_singleton_self _)) rfl rfl))
  | record hkey hform hid hstate =>
    exact .record hkey hform hid (hstate.trans (if_congr (hkeys _ (List.mem_singleton_self _)) rfl rfl))
  | aggregate hqueries hentity hresult =>
    refine .aggregate hqueries hentity fun name => (hresult name).trans (if_congr ?_ rfl rfl)
    exact exists_congr fun d => and_congr_right fun hd => hkeys _ (AggregateQuery.queryKey_mem_queryKeys hd)

theorem Refreshed.queryKeys_eq (h : q.Refreshed s keys q') : q'.queryKeys = q.queryKeys := by
  cases h with
  | list hkey => simp [queryKeys, hkey]
  | record hkey => simp [queryKeys, hkey]
  | aggregate hqueries => simp [queryKeys, AggregateQuery.queryKeys, hqueries]

theorem Refreshed.ordered (h : q.Refreshed s keys q') (hordered : q.Ordered) : q'.Ordered := by
  cases h with
  | list => trivial
  | record => trivial
  | aggregate hqueries => simpa [Ordered, hqueries] using hordered

theorem Refreshed.refresh_eq (h : q.Refreshed s keys q') (i : Nat) (key : String) :
    (Binder.refresh i q' key : Routine (Binder Store) Unit) = Binder.refresh i q key := by
  cases h with
  | list => rfl
  | record => rfl
  | aggregate hqueries => simp [Binder.refresh, AggregateQuery.namesOf, hqueries]

/-- With each key that is fetched again, one more is fresh. -/
theorem Refreshed.refetched (h : q.Refreshed s keys q') (hordered : q.Ordered) (hkey : key ∈ q.queryKeys) :
    q.Refreshed s (keys ++ [key]) (q'.refetched s key) := by
  cases h with
  | @list q q' hsame hform hparams =>
    obtain rfl : key = q.key := List.mem_singleton.mp hkey
    refine .list hsame hform hparams ?_
    simp [ListQuery.refetched, ListQuery.state, ListQuery.fetched, ListQuery.read, Watch.send, hsame, hform, hparams]
  | @record q q' hsame hform hid =>
    obtain rfl : key = q.key := List.mem_singleton.mp hkey
    refine .record hsame hform hid ?_
    simp [RecordQuery.refetched, RecordQuery.state, RecordQuery.fetched, RecordQuery.read, Watch.send, hsame, hform,
      hid]
  | @aggregate a a' hqueries hentity hresult =>
    have hordered' : Dict.Sorted a'.queries := hqueries ▸ hordered
    have hfetched (name : String) : a'.fetched s name = a.fetched s name := by
      simp [AggregateQuery.fetched, hqueries, hentity]
    refine .aggregate (AggregateQuery.queries_foldl.trans hqueries) (AggregateQuery.entityId_foldl.trans hentity)
      fun name => ?_
    simp only [AggregateQuery.refetched, AggregateQuery.get?_foldl, AggregateQuery.mem_namesOf hordered', hfetched,
      hqueries, hresult]
    cases hd : Dict.get? a.queries name with
    | none => simp
    | some d =>
      have hsome : a.fetched s name = some (.ofResult (Store.call d.queryKey (d.bind a.entityId) s).1) := by
        simp [AggregateQuery.fetched, hd]
      by_cases hk : d.queryKey = key <;> simp [hsome, hk]

/-- Fetching again under any of its keys, one after the other, leaves a query fresh under them. -/
theorem refreshed_foldl (hordered : q.Ordered) (hkeys : ∀ k ∈ keys, k ∈ q.queryKeys) :
    q.Refreshed s keys (keys.foldl (fun q k => q.refetched s k) q) := by
  induction keys using List.reverseRecOn with
  | nil => exact .refl s q
  | append_singleton keys key ih =>
    rw [List.foldl_append]
    exact (ih fun k hk => hkeys k (List.mem_append_left _ hk)).refetched hordered (hkeys key (by simp))

end LiveQuery

end RecordScreens
