import RecordScreens.Proofs.Dict
import RecordScreens.Proofs.Query.Footprint
import RecordScreens.Proofs.Query.Refetch
import RecordScreens.Proofs.Source.Writes

/-!
# What queries of a store alter

A store answers a query as it answers a mutation. So a query alters a record just where a
mutation would: its key is routed to changes of a status, and its parameters have the id of
a record and a status that this record does not have. Lists and records never ask with both.
A part of an aggregate asks with what it is declared with, which may be both.
-/

namespace RecordScreens

namespace Store

variable {s : Store} {key : String} {params : Json}

/-- The second store has the same values in every collection. -/
def SameCollections (s t : Store) : Prop := ∀ name, Dict.get? t.collections name = Dict.get? s.collections name

theorem SameCollections.refl (s : Store) : s.SameCollections s := fun _ => rfl

/-- Whether a call finds a record and gives it a status that it does not have. -/
def Alters (s : Store) (key : String) (params : Json) : Prop :=
  ∃ collection id status r, Dict.get? s.routes key = some (.setStatus collection) ∧
    (params.get? "id").bind Json.asString? = some id ∧ params.get? "status" = some status ∧
    find? (s.records collection) id = some r ∧ withStatus status r ≠ r

theorem Alters.sets (h : s.Alters key params) : ∃ collection, s.Sets collection key params := by
  obtain ⟨collection, id, status, r, hroute, hid, hstatus, -, -⟩ := h
  exact ⟨collection, hroute, ⟨id, hid⟩, status, hstatus⟩

/-- A collection in which a record is found is there. -/
theorem get?_of_find? {collection id : String} {r : Json} (h : find? (s.records collection) id = some r) :
    Dict.get? s.collections collection = some (s.records collection) := by
  unfold records at h ⊢
  cases hget : Dict.get? s.collections collection with
  | none =>
    rw [hget] at h
    cases h
  | some records => rfl

theorem sameCollections_call_iff : s.SameCollections (call key params s).2 ↔ ¬ s.Alters key params := by
  constructor
  · rintro hsame ⟨collection, id, status, r, hroute, hid, hstatus, hr, hne⟩
    obtain ⟨-, hrecords⟩ := call_setStatus hroute hid hstatus hr
    have hunchanged : (call key params s).2.records collection = s.records collection :=
      congrArg (·.getD []) (hsame collection)
    obtain ⟨-, earlier, later, hsplit, -, hupdate⟩ := updateFirst_of_find? hr (withStatus status)
    rw [hrecords, hupdate, hsplit] at hunchanged
    exact hne (List.cons.inj (List.append_cancel_left hunchanged)).1
  · intro hkept name
    rcases call_cases key params s with hsame | ⟨collection, id, status, r, hroute, hid, hstatus, hr, -, hchanged⟩
    · rw [hsame]
    · -- The record has the status already.
      have heq : withStatus status r = r := by
        by_contra hne
        exact hkept ⟨collection, id, status, r, hroute, hid, hstatus, hr, hne⟩
      obtain ⟨-, earlier, later, hsplit, -, hupdate⟩ := updateFirst_of_find? hr (withStatus status)
      rw [hchanged, hupdate, heq, ← hsplit]
      by_cases hname : collection = name
      · subst hname
        rw [Dict.get?_insert_self, get?_of_find? hr]
      · rw [Dict.get?_insert_of_ne _ _ hname]

/-- What sets no status in any collection alters nothing. -/
theorem sameCollections_of_not_sets (h : ∀ collection, ¬ s.Sets collection key params) :
    s.SameCollections (call key params s).2 := by
  refine sameCollections_call_iff.mpr fun halters => ?_
  obtain ⟨collection, hsets⟩ := halters.sets
  exact h collection hsets

end Store

namespace Binder

variable {i : Nat} {a : AggregateQuery}

/-- No step alters a record. -/
def AltersNothing (steps : List (TimedStep (Binder Store))) : Prop :=
  ∀ step ∈ steps, step.before.source.SameCollections step.after.source

/-- A step alters no record, or it asks what a part of an aggregate is declared with, and this alters one. -/
def AsDeclared (a : AggregateQuery) (b b' : Binder Store) : Prop :=
  b.source.SameCollections b'.source ∨
    ∃ entry ∈ a.queries, b.source.Alters entry.2.queryKey (entry.2.bind a.entityId) ∧
      b'.source = (DataSource.query entry.2.queryKey (entry.2.bind a.entityId) b.source).2

/-- The query in a place asks for what an aggregate is declared with. -/
def AsksFor (i : Nat) (a : AggregateQuery) (b : Binder Store) : Prop :=
  b.outlines[i]? = some (LiveQuery.aggregate a).outline

/-- A step after which the query in the place is declared as before. -/
def StepOf (i : Nat) (a : AggregateQuery) (b b' : Binder Store) : Prop := AsDeclared a b b' ∧ AsksFor i a b'

/-! ## Lists and records -/

theorem altersNothing_of_steps {α : Type} {r : Routine (Binder Store) α}
    (h : r.Steps (fun _ => True) fun b b' => b.source.SameCollections b'.source)
    (others : Nat → Binder Store → Binder Store) (time : Nat) (b : Binder Store) :
    AltersNothing (r.beside others time b).steps :=
  (h.beside (fun _ _ _ _ => trivial) (fun _ _ _ => trivial) time trivial).1

theorem steps_fetchList_source (i : Nat) (p : ListParams) :
    (fetchList i p).Steps (fun _ => True) fun b b' : Binder Store => b.source.SameCollections b'.source :=
  steps_fetchList (fun b _ => Store.SameCollections.refl b.source)
    (fun _ _ _ => Store.sameCollections_of_not_sets fun _ => p.not_sets)
    fun b _ _ => Store.SameCollections.refl b.source

theorem steps_fetchSingle_source (i : Nat) :
    (fetchSingle i).Steps (fun _ => True) fun b b' : Binder Store => b.source.SameCollections b'.source :=
  steps_fetchSingle (fun b _ => Store.SameCollections.refl b.source)
    (fun _ _ id _ => Store.sameCollections_of_not_sets fun _ => RecordQuery.not_sets id)
    fun b _ _ => Store.SameCollections.refl b.source

theorem steps_fetchRecord_source (R : Type) [Record R] (key id : String) :
    (fetchRecord R key id).Steps (fun _ => True) fun b b' : Binder Store => b.source.SameCollections b'.source := by
  unfold fetchRecord
  refine (steps_query (fun b _ => Store.SameCollections.refl b.source) fun b _ => ?_).bind fun _ => Routine.steps_done _
  exact Store.sameCollections_of_not_sets fun _ => RecordQuery.not_sets id

/-! ## Aggregates -/

theorem AsksFor.eq_of_aggregate? {b : Binder Store} {a' : AggregateQuery} (h : AsksFor i a b)
    (ha' : b.aggregate? i = some a') : a'.queries = a.queries ∧ a'.entityId = a.entityId := by
  have houtline := Option.some.inj ((outline_of_aggregate? ha').symm.trans h)
  obtain ⟨a'', ha'', hsame⟩ := LiveQuery.outline_eq_aggregate houtline
  cases ha''
  exact hsame

theorem stepOf_refl {b : Binder Store} (h : AsksFor i a b) : StepOf i a b b :=
  ⟨.inl (Store.SameCollections.refl b.source), h⟩

theorem stepOf_updateAggregate (f : AggregateQuery → AggregateQuery)
    (hf : ∀ a, (f a).queries = a.queries ∧ (f a).entityId = a.entityId) (b : Binder Store) (h : AsksFor i a b) :
    StepOf i a b (b.updateAggregate i f) := by
  have hsource : (b.updateAggregate i f).source = b.source := by
    unfold updateAggregate
    split <;> rfl
  refine ⟨.inl ?_, ?_⟩
  · rw [hsource]
    exact Store.SameCollections.refl b.source
  · unfold AsksFor
    rwa [outlines_updateAggregate hf]

theorem stepOf_ask {entry : String × QueryDescriptor} (hentry : entry ∈ a.queries) {b : Binder Store}
    (h : AsksFor i a b) : StepOf i a b (ask entry.2.queryKey (entry.2.bind a.entityId) b).2 := by
  refine ⟨?_, h⟩
  by_cases halters : b.source.Alters entry.2.queryKey (entry.2.bind a.entityId)
  · exact .inr ⟨entry, hentry, halters, rfl⟩
  · exact .inl (Store.sameCollections_call_iff.mpr halters)

theorem steps_fetchAggregate_source : (fetchAggregate i).Steps (AsksFor i a) (StepOf i a) := by
  unfold fetchAggregate
  refine Routine.steps_act (stepOf_updateAggregate _ fun _ => ⟨rfl, rfl⟩) fun b hb => ?_
  cases ha' : b.aggregate? i with
  | none => exact Routine.steps_done _
  | some a' =>
    obtain ⟨hqueries, hentity⟩ := hb.eq_of_aggregate? ha'
    simp only [hqueries, hentity]
    refine (Routine.steps_all fun r hr => ?_).bind fun _ =>
      Routine.steps_act (fun _ => stepOf_refl) fun _ _ => Routine.steps_done _
    obtain ⟨entry, hentry, rfl⟩ := List.mem_map.mp hr
    unfold fetchPart
    refine (steps_query (fun _ => stepOf_refl) fun _ => stepOf_ask hentry).bind fun answer => ?_
    refine Routine.steps_modify (stepOf_updateAggregate _ fun a => ?_)
    unfold AggregateQuery.settle
    split <;> exact ⟨rfl, rfl⟩

theorem steps_refetchName_source (name : String) : (refetchName i name).Steps (AsksFor i a) (StepOf i a) := by
  unfold refetchName
  refine Routine.steps_act (fun _ => stepOf_refl) fun b hb => ?_
  cases ha' : b.aggregate? i with
  | none => exact Routine.steps_done _
  | some a' =>
    obtain ⟨hqueries, hentity⟩ := hb.eq_of_aggregate? ha'
    simp only [hqueries, hentity]
    cases hd : Dict.get? a.queries name with
    | none => exact Routine.steps_done _
    | some d =>
      have hbegin := stepOf_updateAggregate (i := i) (a := a) (·.beginName name) fun _ => ⟨rfl, rfl⟩
      refine (Routine.steps_modify hbegin).bind fun _ => ?_
      refine (steps_query (fun _ => stepOf_refl) fun _ => stepOf_ask (Dict.mem_of_get? hd)).bind fun answer => ?_
      refine (Routine.steps_modify (stepOf_updateAggregate _ fun a => ?_)).bind fun _ => Routine.steps_done _
      unfold AggregateQuery.settleName
      split <;> exact ⟨rfl, rfl⟩

theorem steps_refetchNames_source (names : List String) :
    (refetchNames i names).Steps (AsksFor i a) (StepOf i a) := by
  unfold refetchNames
  refine (Routine.steps_sequence fun r hr => ?_).bind fun _ => Routine.steps_done _
  obtain ⟨name, -, rfl⟩ := List.mem_map.mp hr
  exact steps_refetchName_source name

theorem asDeclared_of_steps {α : Type} {r : Routine (Binder Store) α} (h : r.Steps (AsksFor i a) (StepOf i a))
    {others : Nat → Binder Store → Binder Store} (hothers : ∀ n b, (others n b).outlines[i]? = b.outlines[i]?)
    (time : Nat) {b : Binder Store} (hb : AsksFor i a b) :
    ∀ step ∈ (r.beside others time b).steps, AsDeclared a step.before step.after := by
  have hsteps := (h.beside (fun _ _ _ hstep => hstep.2) (fun n b hb => (hothers n b).trans hb) time hb).1
  exact fun step hstep => (hsteps step hstep).1

/-! ## Main result -/

/-- A query leaves a store as a mutation with the same key and parameters leaves it, and alters no record if and only if
that mutation would alter none. Whatever others do meanwhile, no step of a list query or a record query alters a record,
whatever key it has, and a step of an aggregate does so only with what a part is declared with. -/
theorem queries_alter_as_declared (s : Store) (key : String) (params : Json) (b : Binder Store)
    (others : Nat → Binder Store → Binder Store) (time i : Nat) :
    DataSource.query key params s = DataSource.mutate key params s ∧
    (s.SameCollections (DataSource.query key params s).2 ↔ ¬ s.Alters key params) ∧
    (∀ p, AltersNothing ((fetchList i p).beside others time b).steps) ∧
    AltersNothing ((refetchList i).beside others time b).steps ∧
    AltersNothing ((fetchSingle i).beside others time b).steps ∧
    (∀ (R : Type) [Record R] key id, AltersNothing ((fetchRecord R key id).beside others time b).steps) ∧
    ∀ a, b.aggregate? i = some a → (∀ n b', (others n b').outlines[i]? = b'.outlines[i]?) →
      (∀ step ∈ ((fetchAggregate i).beside others time b).steps, AsDeclared a step.before step.after) ∧
      ∀ names, ∀ step ∈ ((refetchNames i names).beside others time b).steps, AsDeclared a step.before step.after := by
  refine ⟨rfl, Store.sameCollections_call_iff, fun p => ?_, ?_, ?_, fun R _ key id => ?_, fun a ha hothers => ?_⟩
  · exact altersNothing_of_steps (steps_fetchList_source i p) others time b
  · refine altersNothing_of_steps (Routine.steps_act ?_ fun b _ => steps_fetchList_source i _) others time b
    exact fun b _ => Store.SameCollections.refl b.source
  · exact altersNothing_of_steps (steps_fetchSingle_source i) others time b
  · exact altersNothing_of_steps (steps_fetchRecord_source R key id) others time b
  · have hasks : AsksFor i a b := outline_of_aggregate? ha
    exact ⟨asDeclared_of_steps steps_fetchAggregate_source hothers time hasks,
      fun names => asDeclared_of_steps (steps_refetchNames_source names) hothers time hasks⟩

/-- An aggregate of a deal, of which a part only reads, and another one has a status among its parameters. -/
def closing : AggregateQuery :=
  .ofQueries
    [("deal", { queryKey := "deal", params := [("id", .string entityIdPlaceholder)] }),
     ("moved", { queryKey := "move", params := [("id", .string entityIdPlaceholder), ("status", .string "closed")] })]
    (some "a")

/-- A store with one deal, and the aggregate of it. -/
def pipeline : Binder Store where
  source :=
    { collections := [("deals", [.object [("id", .string "a"), ("status", .string "new")]])]
      routes := [("deal", .get "deals"), ("move", .setStatus "deals")] }
  queries := [{ query := .aggregate closing }]

/-- Others ask for the deal in the meantime, which leaves what the aggregate is declared with. -/
theorem queries_alter_as_declared_pipeline :
    let others (_ : Nat) (b : Binder Store) : Binder Store := (ask "deal" (RecordQuery.params "a") b).2
    let deals := pipeline.source
    pipeline.aggregate? 0 = some closing ∧ (∀ n b', (others n b').outlines[0]? = b'.outlines[0]?) ∧
      deals.SameCollections (DataSource.query "move" (RecordQuery.params "a") deals).2 ∧
      AltersNothing ((fetchList 0 {}).beside others 0 pipeline).steps ∧
      ∀ step ∈ ((fetchAggregate 0).beside others 0 pipeline).steps, AsDeclared closing step.before step.after := by
  intro others deals
  obtain ⟨-, hsame, hlists, -, -, -, haggregates⟩ :=
    queries_alter_as_declared deals "move" (RecordQuery.params "a") pipeline others 0 0
  have hkept : ¬ deals.Alters "move" (RecordQuery.params "a") := by
    intro halters
    obtain ⟨collection, hsets⟩ := halters.sets
    exact RecordQuery.not_sets "a" hsets
  exact ⟨rfl, fun _ _ => rfl, hsame.mpr hkept, hlists {}, (haggregates closing rfl fun _ _ => rfl).1⟩

/-- A query on a key that is routed to changes of a status alters a record, asked for on its own or as a part of an
aggregate. -/
theorem query_alters_record :
    ¬ (∀ (s : Store) key params, s.SameCollections (DataSource.query key params s).2) ∧
      ¬ pipeline.source.SameCollections ((fetchAggregate 0).run pipeline).2.source := by
  refine ⟨fun hread => ?_, fun hsame => ?_⟩
  · have hsame := hread pipeline.source "move" (.object [("id", .string "a"), ("status", .string "closed")]) "deals"
    revert hsame
    decide
  · have hdeals := hsame "deals"
    revert hdeals
    decide

end Binder

end RecordScreens
