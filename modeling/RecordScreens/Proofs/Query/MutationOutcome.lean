import RecordScreens.Proofs.Query.Invalidation
import RecordScreens.Proofs.Query.Mutation
import RecordScreens.Proofs.Query.Parts

/-!
# What comes of a mutation

A mutation ends with the answer of the source and nothing else. If that is an error,
nothing else happens. If not, what depends on the keys is fetched again, and each answer
to that is seen in the part that it is for and nowhere else.
-/

namespace RecordScreens

/-- What others do once a reply is there, and the state at that time. -/
def Reply.arrival {σ : Type} (reply : Reply) (timeout : Nat) (others : Nat → σ → σ) (s : σ) : (Nat → σ → σ) × σ :=
  match reply.wait? timeout with
  | none => (others, s)
  | some _ => (fun n => others (n + 1), others 0 s)

/-! ## Parts of what depends on keys -/

namespace LiveQuery

variable {q : LiveQuery} {keys keys' : List String} {name : Option String} {call call' : SourceCall}

theorem key_of_mem_requests (h : (name, call) ∈ q.requests keys) : call.key ∈ keys := by
  cases q with
  | list q =>
    obtain ⟨hkey, hcall⟩ := List.mem_ite_nil_right.mp h
    cases List.mem_singleton.mp hcall
    exact hkey
  | record q =>
    obtain ⟨hkey, hcall⟩ := List.mem_ite_nil_right.mp h
    cases List.mem_singleton.mp hcall
    exact hkey
  | aggregate a =>
    obtain ⟨entry, hentry, heq⟩ := List.mem_map.mp h
    cases heq
    exact of_decide_eq_true (List.mem_filter.mp hentry).2

/-- What a query asks for a name does not depend on the keys. -/
theorem request_unique (hordered : q.Ordered) (h : (name, call) ∈ q.requests keys)
    (h' : (name, call') ∈ q.requests keys') : call = call' := by
  cases q with
  | list q =>
    have hcall := List.mem_singleton.mp (List.mem_ite_nil_right.mp h).2
    have hcall' := List.mem_singleton.mp (List.mem_ite_nil_right.mp h').2
    exact congrArg Prod.snd (hcall.trans hcall'.symm)
  | record q =>
    have hcall := List.mem_singleton.mp (List.mem_ite_nil_right.mp h).2
    have hcall' := List.mem_singleton.mp (List.mem_ite_nil_right.mp h').2
    exact congrArg Prod.snd (hcall.trans hcall'.symm)
  | aggregate a =>
    obtain ⟨⟨n, d⟩, hentry, heq⟩ := List.mem_map.mp h
    obtain ⟨⟨n', d'⟩, hentry', heq'⟩ := List.mem_map.mp h'
    cases heq
    cases heq'
    -- A name of an aggregate in order has one descriptor.
    have hd : Dict.get? a.queries n = some d := Dict.get?_of_mem hordered (List.mem_filter.mp hentry).1
    have hd' : Dict.get? a.queries n = some d' := Dict.get?_of_mem hordered (List.mem_filter.mp hentry').1
    cases hd.symm.trans hd'
    rfl

end LiveQuery

namespace Binder

variable {S : Type}

theorem mem_partsOf_requestsAt {q : LiveQuery} {i : Nat} {keys : List String} {p : Nat × Option String} :
    p ∈ partsOf (q.requestsAt i keys) ↔ p.1 = i ∧ ∃ call, (p.2, call) ∈ q.requests keys := by
  obtain ⟨j, name⟩ := p
  simp [partsOf, LiveQuery.requestsAt, and_comm, eq_comm]

/-- Different keys of what someone holds have different parts. -/
theorem partsOf_subset_compl {b : Binder S} (hordered : ∀ i q, b.slot? i = some q → q.Ordered) {i i' : Nat}
    {q q' : LiveQuery} (hq : b.slot? i = some q) (hq' : b.slot? i' = some q') {key key' : String}
    (hne : (i, key) ≠ (i', key')) : partsOf (q.requestsAt i [key]) ⊆ (partsOf (q'.requestsAt i' [key']))ᶜ := by
  refine fun p hp hp' => hne ?_
  obtain ⟨rfl, call, hcall⟩ := mem_partsOf_requestsAt.mp hp
  obtain ⟨rfl, call', hcall'⟩ := mem_partsOf_requestsAt.mp hp'
  cases hq.symm.trans hq'
  have hkey : call.key = key := List.mem_singleton.mp (LiveQuery.key_of_mem_requests hcall)
  have hkey' : call'.key = key' := List.mem_singleton.mp (LiveQuery.key_of_mem_requests hcall')
  rw [← hkey, ← hkey', LiveQuery.request_unique (hordered _ _ hq) hcall hcall']

/-- What someone holds asks for the keys, each query in its place. -/
def requests (keys : List String) (b : Binder S) : List PartRequest :=
  b.places.flatMap fun e => e.1.query.requestsAt e.2 keys

theorem requests_nil (b : Binder S) : b.requests [] = [] := by
  refine List.flatMap_eq_nil_iff.mpr fun e _ => ?_
  cases hq : e.1.query <;> simp [LiveQuery.requestsAt, LiveQuery.requests]

theorem requestsAt_dependents (keys : List String) (b : Binder S) :
    ((b.dependents keys).flatMap fun found => found.2.1.requestsAt found.1 [found.2.2]).Perm (b.requests keys) :=
  requests_dependents (fun i request => (⟨(i, request.1), request.2⟩ : PartRequest)) keys b

theorem slot?_of_dependent {b : Binder S} {keys : List String} {found : Nat × LiveQuery × String}
    (h : found ∈ b.dependents keys) : b.slot? found.1 = some found.2.1 ∧ found.2.2 ∈ found.2.1.queryKeys := by
  obtain ⟨i, q, key⟩ := found
  obtain ⟨r, hr, -, hkey, -, rfl⟩ := mem_dependents.mp h
  exact ⟨Option.map_eq_some_iff.mpr ⟨r, hr, rfl⟩, hkey⟩

theorem partsOf_dependent {b : Binder S} {keys : List String} {found : Nat × LiveQuery × String}
    (h : found ∈ b.dependents keys) :
    partsOf (found.2.1.requestsAt found.1 [found.2.2]) ⊆ partsOf (b.requests keys) := by
  intro p hp
  obtain ⟨request, hrequest, rfl⟩ := List.mem_map.mp hp
  refine List.mem_map_of_mem ?_
  exact (requestsAt_dependents keys b).mem_iff.mp (List.mem_flatMap.mpr ⟨found, h, hrequest⟩)

/-! ## Invalidations -/

section

variable {α : Type} {before : Nat × Option String → Nat × Option QueryPart} {requests requests' : List PartRequest}
  {b : Binder (Logged S)} {time : Nat}

theorem answered_perm {a : α} {steps : List (TimedStep (Binder (Logged S)))} (h : Answered before requests a steps b)
    (hperm : requests.Perm requests') : Answered before requests' a steps b := by
  obtain ⟨replies, hreplies, htaken, hparts⟩ := h
  exact ⟨replies, hreplies.trans hperm, htaken, hparts⟩

variable [DataSource S]

/-- What an invalidation finds is fetched again, each part by itself. -/
theorem owning_invalidate (keys : List String) (hordered : ∀ i q, b.slot? i = some q → q.Ordered) :
    (invalidate keys).Ensures (.owning part (partsOf (b.requests keys))) (Answered b.part (b.requests keys))
      time b := by
  have hpart {b b' : Binder (Logged S)} (hslot : b'.slot? = b.slot?) (htimeout : b'.timeout = b.timeout) :
      b'.part = b.part := by
    funext p
    rw [part, part, hslot, htimeout]
  refine asked_invalidate (fun b b' hslot htimeout p _ => congrFun (hpart hslot htimeout).symm p) ?_
    fun b' hslot htimeout => ?_
  · rintro taken b₁ b₂ hslot htimeout ⟨replies, hreplies, htaken, hparts⟩
    exact ⟨replies, hreplies, htaken, fun e he => (congrFun (hpart hslot htimeout) _).trans (hparts e he)⟩
  let own (found : Nat × LiveQuery × String) : Set (Nat × Option String) :=
    partsOf (found.2.1.requestsAt found.1 [found.2.2])
  have hfit : (b.dependents keys).Pairwise fun found found' =>
      (Terms.owning (part (S := Logged S)) (own found)).Fit (.owning part (own found')) := by
    refine (List.pairwise_map.mp (nodup_dependents keys b)).imp_of_mem fun hfound hfound' hne => ?_
    exact Terms.fit_owning
      (partsOf_subset_compl hordered (slot?_of_dependent hfound).1 (slot?_of_dependent hfound').1 hne)
  have hall : (Routine.all ((b.dependents keys).map fun found => refresh found.1 found.2.1 found.2.2)).Ensures
      (.each (b.dependents keys) fun found => .owning part (own found))
      (Routine.Post.all (fun found => Answered b.part (found.2.1.requestsAt found.1 [found.2.2])) (b.dependents keys))
      time b' := by
    refine Routine.ensures_all hfit (fun found => answered_stable subset_rfl) fun found hfound b'' hb'' => ?_
    obtain ⟨hq, hkey⟩ := slot?_of_dependent hfound
    refine owning_refresh hq hkey (hordered _ _ hq) ?_
    rw [← hpart hslot htimeout]
    exact hb''
  refine (hall.owning fun found hfound => partsOf_dependent hfound).weaken fun as steps b'' heach => ?_
  exact answered_perm (answered_each heach) (requestsAt_dependents keys b)

/-! ## Mutations -/

theorem mutate_eq (key : String) (params : Json) (invalidates : List String) :
    (mutate key params invalidates : Routine (Binder S) _) =
      .act (fun b => (tell key params b).2) fun b => .act id fun told =>
        ((tell key params b).1.await key told.timeout).bind (concluded invalidates) := by
  rfl

/-- Nothing that follows changes the answer. -/
theorem ends_concluded (invalidates : List String) (answer : Except QueryError Json) :
    (concluded invalidates answer : Routine (Binder S) _).Ends (· = answer) := by
  cases answer with
  | error e => exact rfl
  | ok v =>
    by_cases hnone : invalidates = []
    · simp only [concluded, hnone, ne_eq, not_true, if_false]
      exact rfl
    · simp only [concluded, hnone, ne_eq, not_false_iff, if_true]
      exact (Routine.ends_true _).bind fun _ _ => rfl

theorem owning_concluded (invalidates : List String) (v : Json) (hordered : ∀ i q, b.slot? i = some q → q.Ordered) :
    (concluded invalidates (.ok v)).Ensures (.owning part (partsOf (b.requests invalidates)))
      (Answered b.part (b.requests invalidates)) time b := by
  by_cases hnone : invalidates = []
  · simp only [concluded, hnone, requests_nil, ne_eq, not_true, if_false]
    exact ⟨[], .refl _, .refl _, List.forall_mem_nil _⟩
  · simp only [concluded, hnone, ne_eq, not_false_iff, if_true]
    exact Routine.Ensures.map (owning_invalidate invalidates hordered)

/-- A mutation tells the source, looks how long it may wait, and goes on when the reply is there. -/
theorem beside_mutate (key : String) (params : Json) (invalidates : List String) (others : Nat → Binder S → Binder S)
    (time : Nat) (b : Binder S) :
    let reply := (tell key params b).1
    let told := (tell key params b).2
    let arrived := reply.arrival b.timeout others told
    ∃ time', let ran := (concluded invalidates (reply.answer key b.timeout)).beside arrived.1 time' arrived.2
      (mutate key params invalidates).beside others time b =
        { ran with steps := ⟨time, b, told⟩ :: ⟨time, told, told⟩ :: ran.steps } := by
  intro reply told arrived
  have hacts : (mutate key params invalidates).beside others time b =
      let ran := ((reply.await key b.timeout).bind (concluded invalidates)).beside others time told
      { ran with steps := ⟨time, b, told⟩ :: ⟨time, told, told⟩ :: ran.steps } := by
    rw [mutate_eq]
    rfl
  rw [hacts, Reply.await_eq]
  cases hwait : reply.wait? b.timeout with
  | none =>
    have harrived : arrived = (others, told) := by simp only [arrived, Reply.arrival, hwait]
    rw [harrived]
    exact ⟨time, rfl⟩
  | some millis =>
    have harrived : arrived = (fun n => others (n + 1), others 0 told) := by
      simp only [arrived, Reply.arrival, hwait]
    rw [harrived]
    exact ⟨time + millis, rfl⟩

/-- A mutation tells the source once and ends with its answer, whatever others do and whatever is answered later. After
an error it takes no step that does anything. If not, each answer to what is fetched again is seen in its own part. -/
theorem mutate_outcome (key : String) (params : Json) (invalidates : List String)
    (others : Nat → Binder (Logged S) → Binder (Logged S)) (time : Nat) (b : Binder (Logged S)) :
    let reply := (tell key params b).1
    let told := (tell key params b).2
    let ran := (mutate key params invalidates).beside others time b
    let arrived := reply.arrival b.timeout others told
    let requests := arrived.2.requests invalidates
    ran.result = reply.answer key b.timeout ∧
    told.source.taken = b.source.taken ++ [⟨⟨.mutate, key, params⟩, reply⟩] ∧ told.queries = b.queries ∧
    ∃ rest, ran.steps = ⟨time, b, told⟩ :: rest ∧ (∀ step ∈ rest, step.after.mutations = step.before.mutations) ∧
      (∀ e, reply.answer key b.timeout = .error e → ∀ step ∈ rest, step.after = step.before) ∧
      (∀ v, reply.answer key b.timeout = .ok v → (∀ i q, arrived.2.slot? i = some q → q.Ordered) →
        (∀ n b', Set.EqOn b'.part (arrived.1 n b').part (partsOf requests)) →
          (∀ step ∈ rest, Set.EqOn step.before.part step.after.part (partsOf requests)ᶜ) ∧
          Answered arrived.2.part requests ran.result rest ran.state) := by
  intro reply told ran arrived requests
  obtain ⟨time', hmutate⟩ := beside_mutate key params invalidates others time b
  let later := (concluded invalidates (reply.answer key b.timeout)).beside arrived.1 time' arrived.2
  have hran : ran = { later with steps := ⟨time, b, told⟩ :: ⟨time, told, told⟩ :: later.steps } := hmutate
  have hresult : ran.result = reply.answer key b.timeout :=
    (congrArg Ran.result hran).trans ((ends_concluded invalidates _).result arrived.1 time' arrived.2)
  have hsteps : ran.steps = ⟨time, b, told⟩ :: ⟨time, told, told⟩ :: later.steps := congrArg Ran.steps hran
  refine ⟨hresult, rfl, rfl, _, hsteps, ?_, fun e herror => ?_, fun v hok hordered hothers => ?_⟩
  · obtain ⟨change, next, hmutate, -, hnext⟩ := sendsOnce_mutate key params invalidates (S := S)
    have hfirst : ran.steps = ⟨time, b, change b⟩ :: ((next b).beside others time (change b)).steps := by
      simp only [ran, hmutate]
      rfl
    rw [(List.cons.inj (hsteps.symm.trans hfirst)).2]
    exact (hnext b).beside others time (change b)
  · have hnone : later.steps = [] := by
      simp only [later, herror]
      rfl
    rw [hnone]
    exact List.forall_mem_singleton.mpr rfl
  · have hensures : (concluded invalidates (.ok v)).Ensures (.owning part (partsOf requests))
        (Answered arrived.2.part requests) time' arrived.2 := owning_concluded invalidates v hordered
    rw [← hok] at hensures
    obtain ⟨howning, hanswered⟩ := hensures.beside hothers
    refine ⟨List.forall_mem_cons.mpr ⟨Set.eqOn_refl .., howning⟩, ?_⟩
    obtain ⟨replies, hreplies, htaken, hparts⟩ := hanswered
    have hstate : ran.state = later.state := by rw [hran]
    refine ⟨replies, hreplies, ?_, ?_⟩
    · rwa [List.flatMap_cons, asked_of_source rfl]
    · rwa [hstate]

end

/-- A list that two hold, a record and an aggregate, and a source that saves in time and then answers badly or late. -/
def dealBoard : Binder (Logged Scripted) where
  source := { source := { script := [("deal", [{ delay := some 50 }]),
    ("deals", [{ result := some (.ok (.bool true)) }, { delay := some 3, result := some (.error "down") }]),
    ("save", [{ delay := some 5, result := some (.ok (.string "saved")) }])] } }
  timeout := 15
  queries := [{ query := .list { key := "deals", fullForm? := some }, holders := 2 },
    { query := .record { key := "deal", id := "1", fullForm? := some } },
    { query := NewQuery.query
        (.aggregate [("all", { queryKey := "deals" }), ("stats", { queryKey := "stats" })] none) }]

/-- Someone drops the list while the saving is under way. -/
def dealSaved : Ran (Binder (Logged Scripted)) (Except QueryError Json) :=
  (mutate "save" (.string "open") ["deals", "deal"]).beside (fun _ => release 0) 0 dealBoard

/-- The deal is saved although nothing that shows it can be fetched again. -/
theorem mutate_outcome_deals :
    dealSaved.result = .ok (.string "saved") ∧
      (∃ rest, dealSaved.steps = ⟨0, dealBoard, (tell "save" (.string "open") dealBoard).2⟩ :: rest ∧
        ∀ step ∈ rest, step.before.part (2, some "stats") = step.after.part (2, some "stats")) ∧
      (dealSaved.state.list? 0).map (·.state.error?) = some (some (.decode "deals" .notAPage)) ∧
      (dealSaved.state.record? 1).map (·.state) = some (.error (.timeout "deal" 15)) ∧
      (dealSaved.state.aggregate? 2).map (·.result) =
        some [("all", .error (.source "deals" "down")), ("stats", .pending)] := by
  have hordered : ∀ i q, ((tell "save" (.string "open") dealBoard).2.release 0).slot? i = some q → q.Ordered := by
    intro i q hq
    rw [slot?_release] at hq
    match i with
    | 0 => cases hq; trivial
    | 1 => cases hq; trivial
    | 2 => cases hq; exact (NewQuery.aggregate _ none).ordered
  have hothers (requests : List PartRequest) (n : Nat) (b : Binder (Logged Scripted)) :
      Set.EqOn b.part (b.release 0).part (partsOf requests) := fun p _ => by
    rw [part, part, slot?_release]
    rfl
  obtain ⟨hresult, -, -, rest, hsteps, -, -, hok⟩ :=
    mutate_outcome "save" (.string "open") ["deals", "deal"] (fun _ => release 0) 0 dealBoard
  obtain ⟨hrest, -⟩ := hok (.string "saved") rfl hordered fun n => hothers _ n
  refine ⟨hresult, ⟨rest, hsteps, fun step hstep => hrest step hstep ?_⟩, ?_, ?_, ?_⟩
  · show (2, some "stats") ∉ List.map _ _
    decide +kernel
  · decide +kernel
  · decide +kernel
  · decide +kernel

end Binder

end RecordScreens
