import RecordScreens.Proofs.Dict
import RecordScreens.Proofs.Query.Overlap
import RecordScreens.Proofs.Query.Refetch

/-!
# The names of an aggregate

An aggregate knows something of the names that it was made with, and of no other ones.
No step of a fetch changes that, of whatever it is a fetch, so it stays so however
fetches overlap.
-/

namespace RecordScreens

open Routine

variable {S α : Type}

/-! ## Steps -/

theorem AggregateResult.keys_pending (queries : Dict QueryDescriptor) :
    Dict.keys (AggregateResult.pending queries) = Dict.keys queries := Dict.keys_mapValues ..

theorem AggregateResult.get?_pending (queries : Dict QueryDescriptor) (name : String) :
    Dict.get? (AggregateResult.pending queries) name = (Dict.get? queries name).map fun _ => .pending :=
  Dict.get?_mapValues ..

namespace AggregateQuery

/-- The aggregate has these queries and knows something of their names alone. -/
structure Declares (queries : Dict QueryDescriptor) (a : AggregateQuery) : Prop where
  queries_eq : a.queries = queries
  keys_eq : Dict.keys a.result = Dict.keys queries

variable {queries : Dict QueryDescriptor} {a : AggregateQuery} {name : String}

theorem declares_ofQueries (queries : Dict QueryDescriptor) (entityId : Option String) :
    (ofQueries queries entityId).Declares queries :=
  ⟨rfl, AggregateResult.keys_pending queries⟩

theorem Declares.begin (h : a.Declares queries) : a.begin.Declares queries :=
  ⟨h.queries_eq, h.queries_eq ▸ AggregateResult.keys_pending a.queries⟩

theorem Declares.beginName (h : a.Declares queries) (name : String) : (a.beginName name).Declares queries :=
  ⟨h.queries_eq, h.keys_eq⟩

theorem Declares.publish (h : a.Declares queries) (hsorted : Dict.Sorted queries) (hname : name ∈ Dict.keys queries)
    (state : QueryState Json) : (a.publish name state).Declares queries := by
  have hresult : Dict.Sorted a.result := by
    unfold Dict.Sorted
    rwa [h.keys_eq]
  exact ⟨h.queries_eq, (Dict.keys_insert_of_mem hresult (h.keys_eq ▸ hname) state).trans h.keys_eq⟩

theorem Declares.settle (h : a.Declares queries) (hsorted : Dict.Sorted queries) (hname : name ∈ Dict.keys queries)
    (fetch : Nat) (answer : Except QueryError Json) : (a.settle fetch name answer).Declares queries := by
  unfold AggregateQuery.settle
  split
  · exact h.publish hsorted hname _
  · exact h

theorem Declares.settleName (h : a.Declares queries) (hsorted : Dict.Sorted queries)
    (hname : name ∈ Dict.keys queries) (fetch whole : Nat) (answer : Except QueryError Json) :
    (a.settleName fetch whole name answer).Declares queries := by
  unfold AggregateQuery.settleName
  split
  · exact h.publish hsorted hname _
  · exact h

end AggregateQuery

namespace Binder

/-- The query in place `i` is an aggregate with these queries, and knows something of their names alone. -/
def Declares (i : Nat) (queries : Dict QueryDescriptor) (b : Binder S) : Prop :=
  ∃ a, b.slot? i = some (.aggregate a) ∧ a.Declares queries

variable {i : Nat} {queries : Dict QueryDescriptor} {b b' : Binder S}

theorem Declares.of_slot? (h : b.Declares i queries) (hslot : b'.slot? i = b.slot? i) : b'.Declares i queries := by
  obtain ⟨a, ha, hdeclares⟩ := h
  exact ⟨a, hslot.trans ha, hdeclares⟩

theorem Declares.list?_ne (h : b.Declares i queries) {j : Nat} {q : ListQuery} (hq : b.list? j = some q) : j ≠ i := by
  rintro rfl
  obtain ⟨a, ha, -⟩ := h
  cases (slot?_of_list? hq).symm.trans ha

theorem Declares.record?_ne (h : b.Declares i queries) {j : Nat} {q : RecordQuery} (hq : b.record? j = some q) :
    j ≠ i := by
  rintro rfl
  obtain ⟨a, ha, -⟩ := h
  cases (slot?_of_record? hq).symm.trans ha

theorem Declares.of_aggregate? (h : b.Declares i queries) {a : AggregateQuery} (ha : b.aggregate? i = some a) :
    a.Declares queries := by
  obtain ⟨a', ha', hdeclares⟩ := h
  cases (slot?_of_aggregate? ha).symm.trans ha'
  exact hdeclares

theorem Declares.put (h : b.Declares i queries) {j : Nat} (hj : j ≠ i) (q : LiveQuery) :
    (b.put j q).Declares i queries :=
  h.of_slot? (slot?_put_of_ne hj b q)

theorem Declares.updateAggregate (h : b.Declares i queries) {j : Nat} {f : AggregateQuery → AggregateQuery}
    (hf : j = i → ∀ a, a.Declares queries → (f a).Declares queries) : (b.updateAggregate j f).Declares i queries := by
  unfold Binder.updateAggregate
  split
  · rename_i a ha
    by_cases hj : j = i
    · subst hj
      exact ⟨f a, slot?_put_self _ (slot?_of_aggregate? ha), hf rfl a (h.of_aggregate? ha)⟩
    · exact h.put hj _
  · exact h

theorem Declares.settleList (h : b.Declares i queries) (j fetch : Nat) (p : ListParams)
    (answer : Except QueryError Json) : (Binder.settleList j fetch p answer b).2.Declares i queries := by
  unfold Binder.settleList
  split
  · exact h
  · rename_i q hq
    exact h.put (h.list?_ne hq) _

theorem Declares.settleSingle (h : b.Declares i queries) (j fetch : Nat) (answer : Except QueryError Json) :
    (Binder.settleSingle j fetch answer b).2.Declares i queries := by
  unfold Binder.settleSingle
  split
  · exact h
  · rename_i q hq
    exact h.put (h.record?_ne hq) _

/-! ## Fetches -/

variable [DataSource S]

theorem declares_query (key : String) (params : Json) :
    (query key params : Routine (Binder S) _).Preserves (Declares i queries) :=
  preserves_query_of_ask fun _ h => h

theorem declares_fetchList (j : Nat) (p : ListParams) :
    (fetchList j p : Routine (Binder S) _).Preserves (Declares i queries) := by
  refine steps_act (fun _ h => h) fun b h => ?_
  cases hq : b.list? j with
  | none => exact steps_done _
  | some q =>
    refine (steps_modify fun b' h' => h'.put (h.list?_ne hq) _).bind fun _ => ?_
    exact (declares_query _ _).bind fun answer => steps_step fun b' h' => h'.settleList j _ p answer

theorem declares_fetchSingle (j : Nat) : (fetchSingle j : Routine (Binder S) _).Preserves (Declares i queries) := by
  refine steps_act (fun _ h => h) fun b h => ?_
  cases hq : b.record? j with
  | none => exact steps_done _
  | some q =>
    refine (steps_modify fun b' h' => h'.put (h.record?_ne hq) _).bind fun _ => ?_
    exact (declares_query _ _).bind fun answer => steps_step fun b' h' => h'.settleSingle j _ answer

theorem declares_refetchName (hsorted : Dict.Sorted queries) (j : Nat) (name : String) :
    (refetchName j name : Routine (Binder S) _).Preserves (Declares i queries) := by
  refine steps_act (fun _ h => h) fun b h => ?_
  cases ha : b.aggregate? j with
  | none => exact steps_done _
  | some a =>
    simp only
    cases hd : Dict.get? a.queries name with
    | none => exact steps_done _
    | some d =>
      -- The name is one that was declared, if the aggregate is the one in question.
      have hname : j = i → name ∈ Dict.keys queries := by
        rintro rfl
        exact (h.of_aggregate? ha).queries_eq ▸ Dict.mem_keys_of_get? hd
      refine (steps_modify fun b' h' => h'.updateAggregate fun _ a' ha' => ha'.beginName name).bind fun _ => ?_
      refine (declares_query _ _).bind fun answer => ?_
      refine (steps_modify fun b' h' => h'.updateAggregate fun hj a' ha' => ?_).bind fun _ => steps_done _
      exact ha'.settleName hsorted (hname hj) _ _ answer

theorem declares_refresh (hsorted : Dict.Sorted queries) (j : Nat) (q : LiveQuery) (key : String) :
    (refresh j q key : Routine (Binder S) _).Preserves (Declares i queries) := by
  cases q with
  | list q => exact (steps_act (fun _ h => h) fun b _ => declares_fetchList j _).bind fun _ => steps_done _
  | record q => exact (declares_fetchSingle j).bind fun _ => steps_done _
  | aggregate a =>
    refine (steps_sequence fun r hr => ?_).bind fun _ => steps_done _
    obtain ⟨name, -, rfl⟩ := List.mem_map.mp hr
    exact declares_refetchName hsorted j name

theorem declares_invalidate (hsorted : Dict.Sorted queries) (keys : List String) :
    (invalidate keys : Routine (Binder S) _).Preserves (Declares i queries) := by
  -- To hold what is found, or to let go of it, changes no query.
  have hall {change : Nat → Binder S → Binder S} (hchange : ∀ b j i, (change j b).slot? i = b.slot? i)
      (found : List (Nat × LiveQuery × String)) (b : Binder S) (h : b.Declares i queries) :
      (found.foldl (fun b found => change found.1 b) b).Declares i queries :=
    h.of_slot? (view_foldl (slot? · i) (fun b found => hchange b found.1 i) found b)
  refine steps_act (fun b h => hall slot?_retain _ b h) fun b _ => ?_
  refine (steps_all fun r hr => ?_).bind fun _ => ?_
  · obtain ⟨⟨j, q, key⟩, -, rfl⟩ := List.mem_map.mp hr
    exact declares_refresh hsorted j q key
  · exact (steps_modify fun b h => hall slot?_release _ b h).bind fun _ => steps_done _

theorem declares_fetchAggregate (hsorted : Dict.Sorted queries) (j : Nat) :
    (fetchAggregate j : Routine (Binder S) _).Preserves (Declares i queries) := by
  refine steps_act (fun b h => h.updateAggregate fun _ a ha => ha.begin) fun b h => ?_
  cases ha : b.aggregate? j with
  | none => exact steps_done _
  | some a =>
    refine (steps_all fun r hr => ?_).bind fun _ => steps_act (fun _ h => h) fun _ _ => steps_done _
    obtain ⟨⟨name, d⟩, hmem, rfl⟩ := List.mem_map.mp hr
    have hname : j = i → name ∈ Dict.keys queries := by
      rintro rfl
      rw [← (h.of_aggregate? ha).queries_eq]
      exact List.mem_map_of_mem hmem
    refine (declares_query _ _).bind fun answer => steps_modify fun b' h' => h'.updateAggregate fun hj a' ha' => ?_
    exact ha'.settle hsorted (hname hj) _ answer

end Binder

/-! ## Overlapping calls -/

/-- What may be called for an aggregate. -/
inductive AggregateCall where
  | fetch
  | refetch (name : String)
  | invalidate (keys : List String)

def AggregateCall.routine [DataSource S] (i : Nat) : AggregateCall → Routine (Binder S) Unit
  | fetch => (Binder.fetchAggregate i).bind fun _ => .done ()
  | refetch name => (Binder.refetchName i name).bind fun _ => .done ()
  | invalidate keys => (Binder.invalidate keys).bind fun _ => .done ()

/-- What may happen to an aggregate in place `i` while such calls are under way. -/
inductive AggregateEvent (S : Type) (i : Nat) where
  | call (c : AggregateCall)
  | arrive (k : Nat)
  | elsewhere (e : Binder.Elsewhere (Logged S) i)

namespace Overlap

variable [DataSource S] {i : Nat} {queries : Dict QueryDescriptor} {o : Overlap S AggregateCall Unit}

def happen (o : Overlap S AggregateCall Unit) : AggregateEvent S i → Overlap S AggregateCall Unit
  | .call c => o.begin c (c.routine i)
  | .arrive k => o.arrive k
  | .elsewhere e => o.elsewhere e

/-- The calls and the binder after some events, in order. -/
def happened (events : List (AggregateEvent S i)) (o : Overlap S AggregateCall Unit) : Overlap S AggregateCall Unit :=
  events.foldl happen o

/-- The aggregate knows something of the names that it declares alone, and no call that is under way changes that. -/
structure Declares (i : Nat) (queries : Dict QueryDescriptor) (o : Overlap S AggregateCall Unit) : Prop where
  binder : o.binder.Declares i queries
  rest : ∀ f ∈ o.begun, f.rest.Preserves (Binder.Declares i queries)

theorem declares_routine (hsorted : Dict.Sorted queries) (c : AggregateCall) :
    (c.routine i : Routine (Binder S) Unit).Preserves (Binder.Declares i queries) := by
  cases c with
  | fetch => exact (Binder.declares_fetchAggregate hsorted i).bind fun _ => steps_done _
  | refetch name => exact (Binder.declares_refetchName hsorted i name).bind fun _ => steps_done _
  | invalidate keys => exact (Binder.declares_invalidate hsorted keys).bind fun _ => steps_done _

theorem Declares.happen (h : o.Declares i queries) (hsorted : Dict.Sorted queries) (e : AggregateEvent S i) :
    (o.happen e).Declares i queries := by
  cases e with
  | call c =>
    obtain ⟨hbinder, hrest⟩ := (declares_routine hsorted c).advance h.binder
    exact ⟨hbinder, List.forall_mem_append.mpr ⟨h.rest, List.forall_mem_singleton.mpr hrest⟩⟩
  | arrive k =>
    show (o.arrive k).Declares i queries
    cases hf : o.begun[k]? with
    | none =>
      unfold arrive
      rwa [hf]
    | some f =>
      obtain ⟨hbinder, hrest⟩ := (h.rest f (List.mem_of_getElem? hf)).wake h.binder
      rw [arrive_of_getElem? hf]
      refine ⟨hbinder, fun f' hf' => ?_⟩
      rcases List.mem_or_eq_of_mem_set hf' with hf' | rfl
      · exact h.rest f' hf'
      · exact hrest
  | elsewhere e => exact ⟨h.binder.of_slot? (e.slot?_eq o.binder), h.rest⟩

/-- However calls overlap, the aggregate goes on to know something of the names that it declares alone. -/
theorem Declares.happened (h : o.Declares i queries) (hsorted : Dict.Sorted queries)
    (events : List (AggregateEvent S i)) : (o.happened events).Declares i queries := by
  induction events generalizing o with
  | nil => exact h
  | cons e rest ih => exact ih (h.happen hsorted e)

end Overlap

end RecordScreens
