import RecordScreens.Proofs.Query.Overlap
import RecordScreens.Proofs.Routine.Keeps

/-!
# What fetches touch

A fetch of a query asks the source, and changes what is known of this query. So whatever can be said
of calls and of changes in one place can be said of every step of the fetch.
-/

namespace RecordScreens

namespace Binder

variable {S : Type} {i : Nat} {I : Binder S → Prop} {P : Binder S → Binder S → Prop}

/-- Waiting for a reply changes nothing. -/
theorem steps_await (h : ∀ b, I b → P b b) (key : String) (reply : Reply) :
    (await key reply : Routine (Binder S) _).Steps I P := by
  unfold await
  refine Routine.steps_act h fun b _ => ?_
  rw [Reply.await_eq]
  cases reply.wait? b.timeout with
  | none => exact Routine.steps_done _
  | some millis => exact trivial

variable [DataSource S]

/-- A query takes a step for its call, and waits. -/
theorem steps_query {key : String} {params : Json} (hnone : ∀ b, I b → P b b)
    (hask : ∀ b, I b → P b (ask key params b).2) : (query key params : Routine (Binder S) _).Steps I P :=
  (Routine.steps_step hask).bind fun reply => steps_await hnone key reply

/-- A query preserves what its call preserves. -/
theorem preserves_query_of_ask {key : String} {params : Json} (h : ∀ b, I b → I (ask key params b).2) :
    (query key params).Preserves I :=
  steps_query (fun _ hb => hb) h

/-- A list is fetched with the parameters of its page, under whatever key it has. -/
theorem steps_fetchList {p : ListParams} (hnone : ∀ b, I b → P b b)
    (hask : ∀ b key, I b → P b (ask key p.toQuery b).2) (hput : ∀ b q, I b → P b (b.put i q)) :
    (fetchList i p : Routine (Binder S) _).Steps I P := by
  unfold Binder.fetchList
  refine Routine.steps_act hnone fun b _ => ?_
  cases b.list? i with
  | none => exact Routine.steps_done _
  | some q =>
    refine (Routine.steps_modify fun b hb => hput b _ hb).bind fun _ => ?_
    refine (steps_query hnone fun b hb => hask b _ hb).bind fun answer => Routine.steps_step fun b hb => ?_
    unfold settleList
    split
    · exact hnone b hb
    · exact hput b _ hb

/-- A record is fetched with its id alone, under whatever key it has. -/
theorem steps_fetchSingle (hnone : ∀ b, I b → P b b)
    (hask : ∀ b key id, I b → P b (ask key (RecordQuery.params id) b).2) (hput : ∀ b q, I b → P b (b.put i q)) :
    (fetchSingle i : Routine (Binder S) _).Steps I P := by
  unfold Binder.fetchSingle
  refine Routine.steps_act hnone fun b _ => ?_
  cases b.record? i with
  | none => exact Routine.steps_done _
  | some q =>
    refine (Routine.steps_modify fun b hb => hput b _ hb).bind fun _ => ?_
    refine (steps_query hnone fun b hb => hask b _ _ hb).bind fun answer => Routine.steps_step fun b hb => ?_
    unfold settleSingle
    split
    · exact hnone b hb
    · exact hput b _ hb

/-- From a state with `I`, a call and a change of the query in a place are steps of `P`. -/
structure Allows (i : Nat) (I : Binder S → Prop) (P : Binder S → Binder S → Prop) : Prop where
  none : ∀ b, I b → P b b
  ask : ∀ b key params, I b → P b (ask key params b).2
  put : ∀ b q, I b → P b (b.put i q)

namespace Allows

variable (h : Allows i I P)
include h

theorem updateAggregate (f : AggregateQuery → AggregateQuery) (b : Binder S) (hb : I b) :
    P b (b.updateAggregate i f) := by
  unfold Binder.updateAggregate
  split
  · exact h.put b _ hb
  · exact h.none b hb

theorem query (key : String) (params : Json) : (query key params : Routine (Binder S) _).Steps I P :=
  steps_query h.none fun b hb => h.ask b key params hb

theorem fetchList (p : ListParams) : (fetchList i p : Routine (Binder S) _).Steps I P :=
  steps_fetchList h.none (fun b key hb => h.ask b key _ hb) h.put

theorem fetchSingle : (fetchSingle i : Routine (Binder S) _).Steps I P :=
  steps_fetchSingle h.none (fun b key _ hb => h.ask b key _ hb) h.put

theorem fetchAggregate : (fetchAggregate i : Routine (Binder S) _).Steps I P := by
  unfold Binder.fetchAggregate
  refine Routine.steps_act (h.updateAggregate _) fun b _ => ?_
  cases b.aggregate? i with
  | none => exact Routine.steps_done _
  | some a =>
    refine (Routine.steps_all fun r hr => ?_).bind fun _ => Routine.steps_act h.none fun _ _ => Routine.steps_done _
    obtain ⟨⟨name, d⟩, -, rfl⟩ := List.mem_map.mp hr
    exact (h.query _ _).bind fun _ => Routine.steps_modify (h.updateAggregate _)

theorem refetchName (name : String) : (refetchName i name : Routine (Binder S) _).Steps I P := by
  unfold Binder.refetchName
  refine Routine.steps_act h.none fun b _ => ?_
  cases b.aggregate? i with
  | none => exact Routine.steps_done _
  | some a =>
    simp only
    cases Dict.get? a.queries name with
    | none => exact Routine.steps_done _
    | some d =>
      refine (Routine.steps_modify (h.updateAggregate _)).bind fun _ => (h.query _ _).bind fun answer => ?_
      exact (Routine.steps_modify (h.updateAggregate _)).bind fun _ => Routine.steps_done _

theorem refresh (q : LiveQuery) (key : String) : (refresh i q key : Routine (Binder S) _).Steps I P := by
  cases q with
  | list q => exact (Routine.steps_act h.none fun b _ => h.fetchList _).bind fun _ => Routine.steps_done _
  | record q => exact h.fetchSingle.bind fun _ => Routine.steps_done _
  | aggregate q =>
    refine (Routine.steps_sequence fun r hr => ?_).bind fun _ => Routine.steps_done _
    obtain ⟨name, -, rfl⟩ := List.mem_map.mp hr
    exact h.refetchName name

end Allows

/-- The fetches of a query leave the other queries alone. -/
theorem allows_slot {j : Nat} (h : i ≠ j) :
    Allows i (fun _ => True) fun b b' : Binder S => b'.slot? j = b.slot? j where
  none _ _ := rfl
  ask _ _ _ _ := rfl
  put b q _ := slot?_put_of_ne h b q

end Binder

end RecordScreens
