import RecordScreens.Proofs.Query.Asked
import RecordScreens.Proofs.Query.Refreshed

/-!
# What is asked for again

Whatever a query knows, what it asks for when it is fetched again is settled by what it
was made for and, for a list, by its page. So what depends on some keys asks for the same
whatever else goes on, and each query of it asks once.
-/

namespace RecordScreens

/-! ## What queries ask for -/

namespace LiveQuery

/-- The calls of a query that is fetched again for some keys: one for a list or a record, and one for each name of an
aggregate that depends on one of them. -/
def requests (keys : List String) : LiveQuery → List (Option String × SourceCall)
  | list q => if q.key ∈ keys then [(none, ⟨.query, q.key, q.refetchParams.toQuery⟩)] else []
  | record q => if q.key ∈ keys then [(none, ⟨.query, q.key, RecordQuery.params q.id⟩)] else []
  | aggregate a => (a.queries.filter (·.2.queryKey ∈ keys)).map fun entry =>
    (some entry.1, ⟨.query, entry.2.queryKey, entry.2.bind a.entityId⟩)

def calls (keys : List String) (q : LiveQuery) : List SourceCall := (q.requests keys).map (·.2)

/-- A query that is fetched again asks for the same in both states. -/
inductive SameRequests : LiveQuery → LiveQuery → Prop where
  | list {q q' : ListQuery} (hkey : q'.key = q.key) (hparams : q'.refetchParams = q.refetchParams) :
      SameRequests (.list q) (.list q')
  | record {q q' : RecordQuery} (hkey : q'.key = q.key) (hid : q'.id = q.id) : SameRequests (.record q) (.record q')
  | aggregate {a a' : AggregateQuery} (hqueries : a'.queries = a.queries) (hentity : a'.entityId = a.entityId) :
      SameRequests (.aggregate a) (.aggregate a')

variable {q q' q'' : LiveQuery}

theorem SameRequests.refl (q : LiveQuery) : q.SameRequests q := by
  cases q with
  | list q => exact .list rfl rfl
  | record q => exact .record rfl rfl
  | aggregate a => exact .aggregate rfl rfl

theorem SameRequests.trans (h : q.SameRequests q') (h' : q'.SameRequests q'') : q.SameRequests q'' := by
  cases h with
  | list hkey hparams =>
    cases h' with
    | list hkey' hparams' => exact .list (hkey'.trans hkey) (hparams'.trans hparams)
  | record hkey hid =>
    cases h' with
    | record hkey' hid' => exact .record (hkey'.trans hkey) (hid'.trans hid)
  | aggregate hqueries hentity =>
    cases h' with
    | aggregate hqueries' hentity' => exact .aggregate (hqueries'.trans hqueries) (hentity'.trans hentity)

end LiveQuery

namespace Binder

variable {S α : Type}

/-- The queries that are there in the first state are still there, and ask for the same. -/
def SameRequests (b b' : Binder S) : Prop :=
  ∀ i q, b.slot? i = some q → ∃ q', b'.slot? i = some q' ∧ q.SameRequests q'

variable {b b' b'' : Binder S} {i : Nat} {q q' : LiveQuery}

theorem SameRequests.of_slot? (h : ∀ i, b'.slot? i = b.slot? i) : b.SameRequests b' :=
  fun i q hq => ⟨q, (h i).trans hq, .refl q⟩

theorem SameRequests.trans (h : b.SameRequests b') (h' : b'.SameRequests b'') : b.SameRequests b'' := by
  intro i q hq
  obtain ⟨q', hq', hsame⟩ := h i q hq
  obtain ⟨q'', hq'', hsame'⟩ := h' i q' hq'
  exact ⟨q'', hq'', hsame.trans hsame'⟩

theorem sameRequests_put (hq : b.slot? i = some q) (h : q.SameRequests q') : b.SameRequests (b.put i q') := by
  intro j old hold
  by_cases hj : i = j
  · subst hj
    cases hq.symm.trans hold
    exact ⟨q', slot?_put_self q' hq, h⟩
  · exact ⟨old, (slot?_put_of_ne hj b q').trans hold, .refl old⟩

theorem sameRequests_updateAggregate (b : Binder S) (i : Nat) {f : AggregateQuery → AggregateQuery}
    (hf : ∀ a, (f a).queries = a.queries ∧ (f a).entityId = a.entityId) : b.SameRequests (b.updateAggregate i f) := by
  unfold updateAggregate
  split
  · rename_i a ha
    exact sameRequests_put (slot?_of_aggregate? ha) (.aggregate (hf a).1 (hf a).2)
  · exact .of_slot? fun _ => rfl

theorem sameRequests_settleList (i fetch : Nat) (p : ListParams) (answer : Except QueryError Json)
    (b : Binder S) : b.SameRequests (settleList i fetch p answer b).2 := by
  unfold settleList
  split
  · exact .of_slot? fun _ => rfl
  · rename_i q hq
    refine sameRequests_put (slot?_of_list? hq) ?_
    unfold ListQuery.settle
    split <;> exact .list rfl rfl

theorem sameRequests_settleSingle (i fetch : Nat) (answer : Except QueryError Json) (b : Binder S) :
    b.SameRequests (settleSingle i fetch answer b).2 := by
  unfold settleSingle
  split
  · exact .of_slot? fun _ => rfl
  · rename_i q hq
    refine sameRequests_put (slot?_of_record? hq) ?_
    unfold RecordQuery.settle
    split <;> exact .record rfl rfl

/-- All may do anything to a binder but change what its queries ask for. -/
def keepRequests (S : Type) : Terms (Binder S) where
  rely := SameRequests
  guarantee := SameRequests
  rely_refl _ := .of_slot? fun _ => rfl
  rely_trans h h' := h.trans h'

theorem keepRequests_fit : (keepRequests S).Fit (keepRequests S) := ⟨fun _ _ => id, fun _ _ => id⟩

/-! ## Calls of routines -/

/-- The routine made these calls, in any order. -/
def Calls (calls : List SourceCall) : Routine.Post (Binder (Logged S)) α :=
  Asked fun taken _ => (taken.map (·.call)).Perm calls

variable {calls : List SourceCall} {time : Nat} {b : Binder (Logged S)}

theorem calls_stable (calls : List SourceCall) (t : Terms (Binder (Logged S))) :
    (Calls calls : Routine.Post _ α).Stable t := fun _ _ _ _ _ h => h

/-- What asks for nothing may follow. -/
theorem calls_bind {β : Type} {r : Routine (Binder (Logged S)) α} {k : α → Routine (Binder (Logged S)) β}
    (h : r.Ensures (keepRequests _) (Calls calls) time b)
    (hk : ∀ a time b, (k a).Ensures (keepRequests _) (Calls []) time b) :
    (r.bind k).Ensures (keepRequests _) (Calls calls) time b := by
  refine asked_bind h fun a taken time b' htaken => (hk a time b').weaken fun c more _ hmore => ?_
  have hnone : more.flatMap (·.asked) = [] := List.map_eq_nil_iff.mp hmore.eq_nil
  show ((taken ++ more.flatMap (·.asked)).map (·.call)).Perm calls
  rwa [hnone, List.append_nil]

section

variable {ε : Type} {es : List ε} {r : ε → Routine (Binder (Logged S)) α} {of : ε → List SourceCall}

theorem calls_each {as : List α} {steps : List (TimedStep (Binder (Logged S)))}
    (h : Routine.Post.all (fun e => Calls (of e)) es as steps b) : Calls (es.flatMap of) as steps b := by
  show ((steps.flatMap (·.asked)).map (·.call)).Perm (es.flatMap of)
  rw [List.map_flatMap]
  refine Routine.Post.Each.flatMap_perm h fun e a own hcalls => ?_
  rw [← List.map_flatMap]
  exact hcalls

theorem calls_all (h : ∀ e ∈ es, ∀ b', b.SameRequests b' → (r e).Ensures (keepRequests _) (Calls (of e)) time b') :
    (Routine.all (es.map r)).Ensures (keepRequests _) (Calls (es.flatMap of)) time b := by
  have hall := Routine.ensures_all (List.pairwise_of_forall fun _ _ => keepRequests_fit)
    (fun e => calls_stable (of e) (keepRequests _)) h
  exact hall.mono (fun _ _ h _ _ => h) (fun _ _ ⟨_, _, h⟩ => h) fun as steps b => calls_each

theorem calls_sequence
    (h : ∀ e ∈ es, ∀ time b', b.SameRequests b' → (r e).Ensures (keepRequests _) (Calls (of e)) time b') :
    (Routine.sequence (es.map r)).Ensures (keepRequests _) (Calls (es.flatMap of)) time b := by
  refine Routine.Ensures.mono (Routine.ensures_sequence (List.pairwise_of_forall fun _ _ => keepRequests_fit)
    (fun e => calls_stable (of e) (keepRequests _)) h) (fun _ _ h _ _ => h) (fun _ _ ⟨_, _, h⟩ => h) ?_
  exact fun as steps b => calls_each

end

variable [DataSource S]

theorem calls_query {key : String} {params : Json} {k : Except QueryError Json → Routine (Binder (Logged S)) α}
    (hk : ∀ answer time b', b.SameRequests b' → (k answer).Ensures (keepRequests _) (Calls []) time b') :
    ((query key params).bind k).Ensures (keepRequests _) (Calls [⟨.query, key, params⟩]) time b := by
  have hasked : b.SameRequests (ask key params b).2 := .of_slot? fun _ => rfl
  refine asked_query hasked (.of_slot? fun _ => rfl) fun time b' hb' => ?_
  exact (hk _ time b' (hasked.trans hb')).weaken fun a steps _ h => h.cons _

theorem calls_refetchList {q : ListQuery} (h : ∃ q', b.slot? i = some q' ∧ (LiveQuery.list q).SameRequests q') :
    (refetchList i).Ensures (keepRequests _) (Calls [⟨.query, q.key, q.refetchParams.toQuery⟩]) time b := by
  obtain ⟨_, hq', hsame⟩ := h
  cases hsame with
  | @list _ q' hkey hparams =>
    refine asked_act (.of_slot? fun _ => rfl) rfl ?_
    unfold fetchList
    refine asked_act (.of_slot? fun _ => rfl) rfl ?_
    simp only [id, list?_of_slot? hq', Option.map_some, Option.getD_some]
    -- The list begins with the page that it had, so it goes on to ask for the same.
    refine asked_act (sameRequests_put hq' (.list rfl rfl)) rfl ?_
    rw [hkey, hparams]
    refine calls_query fun answer time b' _ => ?_
    exact asked_act (sameRequests_settleList _ _ _ _ _) (source_settleList ..) (List.Perm.refl _)

theorem calls_fetchSingle {q : RecordQuery} (h : ∃ q', b.slot? i = some q' ∧ (LiveQuery.record q).SameRequests q') :
    (fetchSingle i).Ensures (keepRequests _) (Calls [⟨.query, q.key, RecordQuery.params q.id⟩]) time b := by
  obtain ⟨_, hq', hsame⟩ := h
  cases hsame with
  | @record _ q' hkey hid =>
    unfold fetchSingle
    refine asked_act (.of_slot? fun _ => rfl) rfl ?_
    simp only [record?_of_slot? hq']
    refine asked_act (sameRequests_put hq' (.record rfl rfl)) rfl ?_
    rw [hkey, hid]
    refine calls_query fun answer time b' _ => ?_
    exact asked_act (sameRequests_settleSingle _ _ _ _) (source_settleSingle ..) (List.Perm.refl _)

theorem calls_refetchName {a : AggregateQuery} {name : String} {d : QueryDescriptor}
    (hd : Dict.get? a.queries name = some d)
    (h : ∃ q', b.slot? i = some q' ∧ (LiveQuery.aggregate a).SameRequests q') :
    (refetchName i name).Ensures (keepRequests _) (Calls [⟨.query, d.queryKey, d.bind a.entityId⟩]) time b := by
  obtain ⟨_, hq', hsame⟩ := h
  cases hsame with
  | @aggregate _ a' hqueries hentity =>
    have hd' : Dict.get? a'.queries name = some d := hqueries ▸ hd
    unfold refetchName
    refine asked_act (.of_slot? fun _ => rfl) rfl ?_
    simp only [aggregate?_of_slot? hq', hd']
    refine asked_act (sameRequests_updateAggregate _ _ fun _ => ⟨rfl, rfl⟩) (source_updateAggregate ..) ?_
    rw [hentity]
    refine calls_query fun answer time b' _ => ?_
    refine asked_act (sameRequests_updateAggregate _ _ fun a => ?_) (source_updateAggregate ..) (List.Perm.refl _)
    unfold AggregateQuery.settleName
    split <;> exact ⟨rfl, rfl⟩

/-- What is fetched again of a query for one of its keys makes the calls for this key. -/
theorem calls_refresh {q : LiveQuery} {key : String} (hkey : key ∈ q.queryKeys) (hordered : q.Ordered)
    (h : ∃ q', b.slot? i = some q' ∧ q.SameRequests q') :
    (refresh i q key).Ensures (keepRequests _) (Calls (q.calls [key])) time b := by
  cases q with
  | list q =>
    obtain rfl : key = q.key := List.mem_singleton.mp hkey
    rw [LiveQuery.calls, LiveQuery.requests, if_pos (List.mem_singleton_self _)]
    exact calls_bind (calls_refetchList h) fun _ _ _ => List.Perm.refl _
  | record q =>
    obtain rfl : key = q.key := List.mem_singleton.mp hkey
    rw [LiveQuery.calls, LiveQuery.requests, if_pos (List.mem_singleton_self _)]
    exact calls_bind (calls_fetchSingle h) fun _ _ _ => List.Perm.refl _
  | aggregate a =>
    let entries := a.queries.filter (·.2.queryKey == key)
    have hnames : (a.namesOf key).map (refetchName (S := Logged S) i) = entries.map fun e => refetchName i e.1 :=
      List.map_map
    have hcalls : entries.flatMap (fun e => [(⟨.query, e.2.queryKey, e.2.bind a.entityId⟩ : SourceCall)]) =
        (LiveQuery.aggregate a).calls [key] := by
      simp [LiveQuery.calls, LiveQuery.requests, entries, List.map_eq_flatMap, beq_eq_decide, List.flatMap_assoc]
    show (refetchNames i (a.namesOf key)).Ensures _ _ _ _
    unfold refetchNames
    rw [hnames, ← hcalls]
    refine calls_bind (calls_sequence fun e he time b' hb' => calls_refetchName ?_ ?_) fun _ _ _ => List.Perm.refl _
    · exact Dict.get?_of_mem hordered (List.mem_filter.mp he).1
    · obtain ⟨q', hq', hsame⟩ := h
      obtain ⟨q'', hq'', hsame'⟩ := hb' i q' hq'
      exact ⟨q'', hq'', hsame.trans hsame'⟩

/-! ## What fetches leave -/

/-- The query in a place asks for the same as another one. -/
def AsksAs (i : Nat) (q : LiveQuery) (b : Binder S) : Prop := ∃ q', b.slot? i = some q' ∧ q.SameRequests q'

section

variable {S : Type} {b b' : Binder S}

theorem AsksAs.of_same (h : b.AsksAs i q) (hb : b.SameRequests b') : b'.AsksAs i q := by
  obtain ⟨q', hq', hsame⟩ := h
  obtain ⟨q'', hq'', hsame'⟩ := hb i q' hq'
  exact ⟨q'', hq'', hsame.trans hsame'⟩

theorem AsksAs.of_slot? (h : b.AsksAs i q) (hslot : b'.slot? i = b.slot? i) : b'.AsksAs i q := by
  obtain ⟨q', hq', hsame⟩ := h
  exact ⟨q', hslot.trans hq', hsame⟩

/-- A query that was found in a place may be put there with a new state, whatever happened since. -/
theorem AsksAs.put (h : b'.AsksAs i q) (hfound : b.AsksAs i q) {j : Nat} {found new : LiveQuery}
    (hj : b.slot? j = some found) (hnew : found.SameRequests new) : (b'.put j new).AsksAs i q := by
  by_cases hi : j = i
  · subst hi
    obtain ⟨q', hq', -⟩ := h
    obtain ⟨q'', hq'', hsame⟩ := hfound
    cases hj.symm.trans hq''
    exact ⟨new, slot?_put_self new hq', hsame.trans hnew⟩
  · exact h.of_slot? (slot?_put_of_ne hi b' new)

variable [DataSource S]

theorem asksAs_query (key : String) (params : Json) :
    (query key params : Routine (Binder S) _).Preserves (AsksAs i q) :=
  preserves_query_of_ask fun _ h => h

theorem asksAs_fetchSingle (j : Nat) : (fetchSingle j : Routine (Binder S) _).Preserves (AsksAs i q) := by
  refine Routine.steps_act (fun _ h => h) fun b h => ?_
  cases hr : b.record? j with
  | none => exact Routine.steps_done _
  | some r =>
    refine (Routine.steps_modify fun b' h' => h'.put h (slot?_of_record? hr) (.record rfl rfl)).bind fun _ => ?_
    exact (asksAs_query _ _).bind fun answer =>
      Routine.steps_step fun b' h' => h'.of_same (sameRequests_settleSingle j _ answer b')

theorem asksAs_fetchAggregate (j : Nat) : (fetchAggregate j : Routine (Binder S) _).Preserves (AsksAs i q) := by
  refine Routine.steps_act (fun b h => h.of_same (sameRequests_updateAggregate b j fun _ => ⟨rfl, rfl⟩)) fun b h => ?_
  cases ha : b.aggregate? j with
  | none => exact Routine.steps_done _
  | some a =>
    refine (Routine.steps_all fun r hr => ?_).bind fun _ =>
      Routine.steps_act (fun _ h => h) fun _ _ => Routine.steps_done _
    obtain ⟨⟨name, d⟩, -, rfl⟩ := List.mem_map.mp hr
    refine (asksAs_query _ _).bind fun answer => Routine.steps_modify fun b' h' => h'.of_same ?_
    refine sameRequests_updateAggregate b' j fun a' => ?_
    unfold AggregateQuery.settle
    split <;> exact ⟨rfl, rfl⟩

end

end Binder

end RecordScreens
