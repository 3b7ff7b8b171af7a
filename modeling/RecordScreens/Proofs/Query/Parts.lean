import RecordScreens.Proofs.Query.AggregateSession
import RecordScreens.Proofs.Query.Requests

/-!
# Parts of queries

A list or a record is fetched again as a whole, an aggregate name by name. Whatever else
is fetched at once, such a part ends as its own answer says, and nothing else changes.
-/

namespace RecordScreens

/-! ## Parts -/

/-- What a query has of a name. Lists and records go without a name. -/
inductive QueryPart where
  | list (q : ListQuery)
  | record (q : RecordQuery)
  | name (queries : Dict QueryDescriptor) (entityId : Option String) (issued issuedFor : Nat)
    (state? : Option (QueryState Json))
  | nothing

/-- The list once its last page has been fetched again. -/
def ListQuery.answered (answer : Except QueryError Json) (q : ListQuery) : ListQuery :=
  { q with
    issued := q.issued + 1
    settled := q.issued + 1
    lastParams := some q.refetchParams
    watch := q.watch.send (.ofResult (q.read q.refetchParams answer)) }

/-- The record once it has been fetched again. -/
def RecordQuery.answered (answer : Except QueryError Json) (q : RecordQuery) : RecordQuery :=
  { q with issued := q.issued + 1, watch := q.watch.send (.ofResult (q.read answer)) }

/-- The state of a name, if there is one. -/
def QueryPart.state? : QueryPart → Option (QueryState Json)
  | name _ _ _ _ state? => state?
  | _ => none

/-- A part once it has been fetched again. -/
def QueryPart.answered (answer : Except QueryError Json) : QueryPart → QueryPart
  | list q => .list (q.answered answer)
  | record q => .record (q.answered answer)
  | name queries entityId issued issuedFor _ =>
    .name queries entityId issued (issuedFor + 1) (some (.ofResult answer))
  | nothing => .nothing

/-- What an aggregate has of a name. -/
def AggregateQuery.part (a : AggregateQuery) (name : String) : QueryPart :=
  .name a.queries a.entityId a.issued (a.issuedFor name) (Dict.get? a.result name)

def LiveQuery.part : LiveQuery → Option String → QueryPart
  | list q, none => .list q
  | record q, none => .record q
  | aggregate a, some name => a.part name
  | _, _ => .nothing

namespace AggregateQuery

variable (a : AggregateQuery) (name : String) (state : QueryState Json)

theorem part_publish_self :
    (a.publish name state).part name = .name a.queries a.entityId a.issued (a.issuedFor name) (some state) := by
  have hstate : Dict.get? (a.publish name state).result name = some state := Dict.get?_insert_self ..
  unfold AggregateQuery.part
  rw [hstate]
  rfl

theorem part_publish_of_ne {other : String} (h : name ≠ other) : (a.publish name state).part other = a.part other := by
  have hstate : Dict.get? (a.publish name state).result other = Dict.get? a.result other :=
    Dict.get?_insert_of_ne _ _ h
  unfold AggregateQuery.part
  rw [hstate]
  rfl

theorem part_beginName_self :
    (a.beginName name).part name =
      .name a.queries a.entityId a.issued (a.issuedFor name + 1) (Dict.get? a.result name) := by
  unfold AggregateQuery.part
  rw [issuedFor_beginName, if_pos rfl]
  rfl

theorem part_beginName_of_ne {other : String} (h : name ≠ other) : (a.beginName name).part other = a.part other := by
  unfold AggregateQuery.part
  rw [issuedFor_beginName, if_neg h]
  rfl

end AggregateQuery

namespace Binder

variable {S α : Type}

/-- What the query in a place has of a name, and how long a call for it may take. -/
def part (b : Binder S) (p : Nat × Option String) : Nat × Option QueryPart :=
  (b.timeout, (b.slot? p.1).map (·.part p.2))

variable {b b' : Binder S} {i : Nat}

theorem slot?_of_part_list {q : ListQuery} (h : (b.part (i, none)).2 = some (.list q)) :
    b.slot? i = some (.list q) := by
  obtain ⟨live, hlive, hpart⟩ := Option.map_eq_some_iff.mp h
  cases live with
  | list q' => cases hpart; exact hlive
  | record q' => cases hpart
  | aggregate a => cases hpart

theorem slot?_of_part_record {q : RecordQuery} (h : (b.part (i, none)).2 = some (.record q)) :
    b.slot? i = some (.record q) := by
  obtain ⟨live, hlive, hpart⟩ := Option.map_eq_some_iff.mp h
  cases live with
  | list q' => cases hpart
  | record q' => cases hpart; exact hlive
  | aggregate a => cases hpart

theorem slot?_of_part_name {name : String} {queries : Dict QueryDescriptor} {entityId : Option String}
    {issued issuedFor : Nat} {state? : Option (QueryState Json)}
    (h : (b.part (i, some name)).2 = some (.name queries entityId issued issuedFor state?)) :
    ∃ a, b.slot? i = some (.aggregate a) ∧ a.queries = queries ∧ a.entityId = entityId ∧ a.issued = issued ∧
      a.issuedFor name = issuedFor ∧ Dict.get? a.result name = state? := by
  obtain ⟨live, hlive, hpart⟩ := Option.map_eq_some_iff.mp h
  cases live with
  | list q' => cases hpart
  | record q' => cases hpart
  | aggregate a => cases hpart; exact ⟨a, hlive, rfl, rfl, rfl, rfl, rfl⟩

theorem part_of_slot? {q : LiveQuery} (h : b.slot? i = some q) (name : Option String) :
    b.part (i, name) = (b.timeout, some (q.part name)) := by
  unfold part
  rw [h]
  rfl

/-- A query that is put in place of another one changes the parts in which they differ. -/
theorem eqOn_put {q q' : LiveQuery} {places : Set (Nat × Option String)} (hq : b.slot? i = some q)
    (h : ∀ n, (i, n) ∈ places → q'.part n = q.part n) : Set.EqOn b.part (b.put i q').part places := by
  rintro ⟨j, n⟩ hmem
  by_cases hj : i = j
  · subst hj
    simp [part, slot?_put_self q' hq, hq, h n hmem]
  · simp [part, slot?_put_of_ne hj]

/-- A query without names is one part. -/
theorem eqOn_put_whole {q q' : LiveQuery} (hq : b.slot? i = some q) (h : q.part ∘ some = q'.part ∘ some) :
    Set.EqOn b.part (b.put i q').part {(i, none)}ᶜ := by
  refine eqOn_put hq fun n hn => ?_
  cases n with
  | none => exact absurd rfl hn
  | some name => exact congrFun h.symm name

theorem part_publish {a : AggregateQuery} (ha : b.slot? i = some (.aggregate a)) (name : String)
    (state : QueryState Json) :
    (b.put i (.aggregate (a.publish name state))).part (i, some name) =
      (b.timeout, some (.name a.queries a.entityId a.issued (a.issuedFor name) (some state))) := by
  rw [part_of_slot? (slot?_put_self _ ha)]
  exact congrArg (fun p => (b.timeout, some p)) (a.part_publish_self name state)

/-! ## Fetches -/

/-- The routine makes one call for a part that was `before`, and leaves it as the answer says. -/
def Comes (before : Nat × Option QueryPart) (p : Nat × Option String) (call : SourceCall) :
    Routine.Post (Binder (Logged S)) α :=
  Asked fun taken b => ∃ reply, taken = [⟨call, reply⟩] ∧
    b.part p = (before.1, before.2.map (·.answered (reply.answer call.key before.1)))

/-- A record query makes its call, and the reply to it is what the fetch comes to and what the query knows then. -/
def Fetched (r : RecordQuery) (timeout i : Nat) :
    Routine.Post (Binder (Logged S)) FetchOutcome := fun outcome steps b =>
  ∃ reply : Reply, steps.flatMap (·.asked) = [⟨⟨.query, r.key, RecordQuery.params r.id⟩, reply⟩] ∧
    outcome = .ofResult (r.read (reply.answer r.key timeout)) ∧
    b.part (i, none) = (timeout, some (.record (r.answered (reply.answer r.key timeout))))

theorem fetched_stable (r : RecordQuery) (timeout i : Nat) :
    (Fetched (S := S) r timeout i).Stable (.owning part {(i, none)}) := by
  rintro outcome steps b b' hb ⟨reply, hasked, houtcome, hpart⟩
  exact ⟨reply, hasked, houtcome, (hb rfl).symm.trans hpart⟩

variable {time : Nat} {b : Binder (Logged S)} {q : ListQuery} {r : RecordQuery}

theorem owning_updateAggregate {a : AggregateQuery} (h : b.slot? i = some (.aggregate a)) {name : String}
    {f : AggregateQuery → AggregateQuery} (hf : ∀ other, name ≠ other → (f a).part other = a.part other) :
    Set.EqOn b.part (b.updateAggregate i f).part {(i, some name)}ᶜ := by
  rw [updateAggregate_eq (aggregate?_of_slot? h)]
  refine eqOn_put h fun n hn => ?_
  cases n with
  | none => rfl
  | some other => exact hf other fun heq => hn (heq ▸ rfl)

variable [DataSource S]

theorem owning_refetchList (h : b.slot? i = some (.list q)) :
    (refetchList i).Ensures (.owning part {(i, none)})
      (Comes (b.part (i, none)) (i, none) ⟨.query, q.key, q.refetchParams.toQuery⟩) time b := by
  refine asked_act (Set.eqOn_refl ..) rfl ?_
  unfold fetchList
  refine asked_act (Set.eqOn_refl ..) rfl ?_
  simp only [id, list?_of_slot? h, Option.map_some, Option.getD_some]
  let begun := b.put i (.list (q.begin q.refetchParams))
  have hbegun : begun.slot? i = some (.list (q.begin q.refetchParams)) := slot?_put_self _ h
  refine asked_act (eqOn_put_whole h rfl) rfl (asked_query (Set.eqOn_refl ..) (Set.eqOn_refl ..) fun time b' hb' => ?_)
  -- Nobody else has touched the list, so the answer is to its last fetch.
  have hpart : b'.part (i, none) = (b.timeout, some (.list (q.begin q.refetchParams))) :=
    (hb' rfl).symm.trans (part_of_slot? hbegun none)
  have htimeout : b'.timeout = b.timeout := congrArg Prod.fst hpart
  have hq' : b'.slot? i = some (.list (q.begin q.refetchParams)) := slot?_of_part_list (congrArg Prod.snd hpart)
  have hsettled (answer : Except QueryError Json) :
      (settleList i (q.begin q.refetchParams).issued q.refetchParams answer b').2 =
        b'.put i (.list (q.answered answer)) := by
    simp [settleList, list?_of_slot? hq', ListQuery.settle, ListQuery.begin, ListQuery.answered, ListQuery.read]
  refine asked_act ?_ (source_settleList ..) ⟨_, rfl, ?_⟩
  · rw [hsettled]
    exact eqOn_put_whole hq' rfl
  · rw [hsettled, part_of_slot? h none, part_of_slot? (slot?_put_self _ hq') none, timeout_put, htimeout]
    rfl

/-- A fetch of a record that nobody else touches, with what it comes to. -/
theorem ensures_fetchSingle (h : b.slot? i = some (.record r)) :
    (fetchSingle i).Ensures (.owning part {(i, none)}) (Fetched r b.timeout i) time b := by
  unfold fetchSingle
  refine ⟨Set.eqOn_refl .., ?_⟩
  simp only [id, record?_of_slot? h]
  let begun := b.put i (.record r.begin)
  have hbegun : begun.slot? i = some (.record r.begin) := slot?_put_self _ h
  refine ⟨eqOn_put_whole h rfl, ensures_query (Set.eqOn_refl ..) (Set.eqOn_refl ..) fun b' hb' => ?_⟩
  -- Nobody else has touched the record, so the answer is to its last fetch.
  have hpart : b'.part (i, none) = (b.timeout, some (.record r.begin)) :=
    (hb' rfl).symm.trans (part_of_slot? hbegun none)
  have hr' : b'.slot? i = some (.record r.begin) := slot?_of_part_record (congrArg Prod.snd hpart)
  let reply := (ask r.key (RecordQuery.params r.id) begun).1
  let answer := reply.answer r.key b.timeout
  let settled := settleSingle i r.begin.issued answer b'
  have hsettled : settled = (.ofResult (r.read answer), b'.put i (.record (r.answered answer))) := by
    simp [settled, settleSingle, record?_of_slot? hr', RecordQuery.settle, RecordQuery.begin, RecordQuery.answered,
      RecordQuery.read]
  have howns : Set.EqOn b'.part settled.2.part {(i, none)}ᶜ := by
    rw [hsettled]
    exact eqOn_put_whole hr' rfl
  refine ⟨howns, reply, ?_, congrArg Prod.fst hsettled, ?_⟩
  · let told := (ask r.key (RecordQuery.params r.id) begun).2
    have hquiet {time : Nat} {b b' : Binder (Logged S)} (h : b'.source = b.source) (steps : List TakenCall) :
        TimedStep.asked ⟨time, b, b'⟩ ++ steps = steps := by rw [asked_of_source h, List.nil_append]
    have hbegins : begun.source = b.source := rfl
    have hsettles : settled.2.source = b'.source := source_settleSingle ..
    show TimedStep.asked ⟨time, b, b⟩ ++ (TimedStep.asked ⟨time, b, begun⟩ ++ (TimedStep.asked ⟨time, begun, told⟩ ++
      (TimedStep.asked ⟨time, told, told⟩ ++ (TimedStep.asked ⟨_, b', settled.2⟩ ++ [])))) = _
    rw [hquiet rfl, hquiet hbegins, asked_ask, hquiet rfl, hquiet hsettles]
    rfl
  · have htimeout : b'.timeout = b.timeout := congrArg Prod.fst hpart
    show settled.2.part (i, none) = _
    rw [hsettled, part_of_slot? (slot?_put_self _ hr') none, timeout_put, htimeout]
    rfl

theorem owning_fetchSingle (h : b.slot? i = some (.record r)) :
    (fetchSingle i).Ensures (.owning part {(i, none)})
      (Comes (b.part (i, none)) (i, none) ⟨.query, r.key, RecordQuery.params r.id⟩) time b := by
  refine (ensures_fetchSingle h).weaken ?_
  rintro outcome steps b' ⟨reply, hasked, -, hpart⟩
  refine ⟨reply, hasked, hpart.trans ?_⟩
  rw [part_of_slot? h none]
  rfl

theorem owning_refetchName {a : AggregateQuery} (h : b.slot? i = some (.aggregate a)) {name : String}
    {d : QueryDescriptor} (hd : Dict.get? a.queries name = some d) :
    (refetchName i name).Ensures (.owning part {(i, some name)})
      (Comes (b.part (i, some name)) (i, some name) ⟨.query, d.queryKey, d.bind a.entityId⟩) time b := by
  unfold refetchName
  refine asked_act (Set.eqOn_refl ..) rfl ?_
  simp only [id, aggregate?_of_slot? h, hd]
  let begun := b.put i (.aggregate (a.beginName name))
  have hbegun : b.updateAggregate i (·.beginName name) = begun := updateAggregate_eq (aggregate?_of_slot? h) _
  have hslot : begun.slot? i = some (.aggregate (a.beginName name)) := slot?_put_self _ h
  refine asked_act (owning_updateAggregate h fun _ => a.part_beginName_of_ne name) (source_updateAggregate ..) ?_
  rw [hbegun]
  refine asked_query (Set.eqOn_refl ..) (Set.eqOn_refl ..) fun time b' hb' => ?_
  have hpart : b'.part (i, some name) = (b.timeout, some ((a.beginName name).part name)) :=
    (hb' rfl).symm.trans (part_of_slot? hslot (some name))
  rw [AggregateQuery.part_beginName_self] at hpart
  obtain ⟨a', ha', hqueries, hentity, hissued, hnumber, -⟩ := slot?_of_part_name (congrArg Prod.snd hpart)
  have hsettled (answer : Except QueryError Json) :
      a'.settleName (a.issuedFor name + 1) a.issued name answer = a'.publish name (.ofResult answer) :=
    if_pos ⟨hnumber, hissued⟩
  refine asked_act (owning_updateAggregate ha' fun other hne => ?_) (source_updateAggregate ..) ⟨_, rfl, ?_⟩
  · rw [hsettled]
    exact a'.part_publish_of_ne name _ hne
  · have htimeout : b'.timeout = b.timeout := congrArg Prod.fst hpart
    rw [updateAggregate_eq (aggregate?_of_slot? ha'), hsettled, part_publish ha', part_of_slot? h (some name), hqueries,
      hentity, hissued, hnumber, htimeout]
    rfl

/-! ## Several fetches -/

end Binder

/-- A call for what a query in a place has of a name. -/
structure PartRequest where
  place : Nat × Option String
  call : SourceCall

/-- The requests of a query in place `i` that is fetched again for some keys. -/
def LiveQuery.requestsAt (i : Nat) (keys : List String) (q : LiveQuery) : List PartRequest :=
  (q.requests keys).map fun request => ⟨(i, request.1), request.2⟩

namespace Binder

/-- The routine made these requests, each once, and the part that one is for is what its own answer makes of it. -/
def Answered (before : Nat × Option String → Nat × Option QueryPart) (requests : List PartRequest) :
    Routine.Post (Binder (Logged S)) α :=
  Asked fun taken b => ∃ replies : List (PartRequest × Reply),
    (replies.map (·.1)).Perm requests ∧ taken.Perm (replies.map fun e => ⟨e.1.call, e.2⟩) ∧
      ∀ e ∈ replies, b.part e.1.place =
        ((before e.1.place).1, (before e.1.place).2.map (·.answered (e.2.answer e.1.call.key (before e.1.place).1)))

variable {before : Nat × Option String → Nat × Option QueryPart} {requests : List PartRequest}

/-- The parts that some requests are for. -/
def partsOf (requests : List PartRequest) : Set (Nat × Option String) := {p | p ∈ requests.map (·.place)}

theorem answered_stable {own : Set (Nat × Option String)} (h : partsOf requests ⊆ own) :
    (Answered before requests : Routine.Post _ α).Stable (.owning (part (S := Logged S)) own) := by
  rintro a steps b b' hb ⟨replies, hreplies, htaken, hparts⟩
  refine ⟨replies, hreplies, htaken, fun e he => ?_⟩
  have hrequest : e.1 ∈ requests := hreplies.mem_iff.mp (List.mem_map_of_mem he)
  exact (hb (h (List.mem_map_of_mem hrequest))).symm.trans (hparts e he)

theorem answered_of_comes (request : PartRequest) {a : α} {steps : List (TimedStep (Binder (Logged S)))}
    (h : Comes (before request.place) request.place request.call a steps b) : Answered before [request] a steps b := by
  obtain ⟨reply, htaken, hpart⟩ := h
  exact ⟨[(request, reply)], .refl _, .of_eq htaken, List.forall_mem_singleton.mpr hpart⟩

theorem answered_each {ε : Type} {es : List ε} {of : ε → List PartRequest} {as : List α}
    {steps : List (TimedStep (Binder (Logged S)))}
    (h : Routine.Post.all (fun e => Answered before (of e)) es as steps b) :
    Answered before (es.flatMap of) as steps b := by
  induction h with
  | nil => exact ⟨[], .refl _, .refl _, nofun⟩
  | cons first _ perm ih =>
    obtain ⟨replies, hreplies, htaken, hparts⟩ := first
    obtain ⟨replies', hreplies', htaken', hparts'⟩ := ih
    refine ⟨replies ++ replies', ?_, ?_, List.forall_mem_append.mpr ⟨hparts, hparts'⟩⟩
    · rw [List.map_append]
      exact hreplies.append hreplies'
    · rw [List.map_append]
      refine (perm.flatMap_right _).trans ?_
      rw [List.flatMap_append]
      exact htaken.append htaken'

theorem partsOf_singleton (request : PartRequest) : partsOf [request] = {request.place} := by simp [partsOf]

/-- Different names of an aggregate can be fetched at once. -/
theorem fit_names (i : Nat) {entries : List (String × QueryDescriptor)}
    (hnodup : entries.Pairwise fun e e' => e.1 ≠ e'.1) :
    entries.Pairwise fun e e' =>
      (Terms.owning (part (S := S)) {(i, some e.1)}).Fit (.owning part {(i, some e'.1)}) := by
  refine hnodup.imp fun hne => Terms.fit_owning (Set.singleton_subset_iff.mpr fun heq => ?_)
  exact hne (Option.some.inj (Prod.mk.inj heq).2)

/-- A list or a record that is fetched again is one part. -/
theorem answered_whole {r : Routine (Binder (Logged S)) α} {call : SourceCall}
    (h : r.Ensures (.owning part {(i, none)}) (Comes (before (i, none)) (i, none) call) time b) :
    (r.bind fun _ => .done ()).Ensures (.owning part (partsOf [⟨(i, none), call⟩]))
      (Answered before [⟨(i, none), call⟩]) time b := by
  rw [partsOf_singleton]
  exact Routine.Ensures.map (h.weaken fun _ _ _ hcomes => answered_of_comes _ hcomes)

variable [DataSource S] {b₀ : Binder (Logged S)}

/-- Names of an aggregate that are fetched again one after the other. -/
theorem owning_refetchNames {a : AggregateQuery} (h : b₀.slot? i = some (.aggregate a))
    {entries : List (String × QueryDescriptor)} (hentries : ∀ e ∈ entries, Dict.get? a.queries e.1 = some e.2)
    (hnodup : entries.Pairwise fun e e' => e.1 ≠ e'.1)
    (hb : ∀ e ∈ entries, b₀.part (i, some e.1) = b.part (i, some e.1)) :
    (refetchNames i (entries.map (·.1)) : Routine (Binder (Logged S)) Unit).Ensures
      (.each entries fun e => .owning part {(i, some e.1)})
      (Answered b₀.part (entries.map fun e => ⟨(i, some e.1), ⟨.query, e.2.queryKey, e.2.bind a.entityId⟩⟩))
      time b := by
  let request (e : String × QueryDescriptor) : PartRequest :=
    ⟨(i, some e.1), ⟨.query, e.2.queryKey, e.2.bind a.entityId⟩⟩
  unfold refetchNames
  rw [List.map_map]
  have hfetch (e : String × QueryDescriptor) (he : e ∈ entries) (time : Nat) (b' : Binder (Logged S))
      (hb' : Set.EqOn b.part b'.part {(i, some e.1)}) :
      (refetchName i e.1).Ensures (.owning part {(i, some e.1)}) (Answered b₀.part [request e]) time b' := by
    have hpart : b'.part (i, some e.1) = b₀.part (i, some e.1) := ((hb e he).trans (hb' rfl)).symm
    have hpart₀ := hpart.trans (part_of_slot? h (some e.1))
    obtain ⟨a', ha', hqueries, hentity, -⟩ := slot?_of_part_name (congrArg Prod.snd hpart₀)
    have hd : Dict.get? a'.queries e.1 = some e.2 := hqueries ▸ hentries e he
    have hown : (refetchName i e.1).Ensures _ _ time b' := owning_refetchName ha' hd
    rw [hpart, hentity] at hown
    exact hown.weaken fun _ _ _ hcomes => answered_of_comes (request e) hcomes
  have hrequests : entries.map request = entries.flatMap fun e => [request e] := List.map_eq_flatMap ..
  have hfit := fit_names (S := Logged S) i hnodup
  refine Routine.Ensures.map ((Routine.ensures_sequence hfit (fun e => answered_stable ?_) hfetch).weaken ?_)
  · simp [partsOf, request]
  · intro _ steps b' heach
    rw [hrequests]
    exact answered_each heach

/-- What a query has of one of its keys, fetched again. -/
theorem owning_refresh {q : LiveQuery} {key : String} (hq : b₀.slot? i = some q) (hkey : key ∈ q.queryKeys)
    (hordered : q.Ordered) (hb : Set.EqOn b₀.part b.part (partsOf (q.requestsAt i [key]))) :
    (refresh i q key : Routine (Binder (Logged S)) Unit).Ensures (.owning part (partsOf (q.requestsAt i [key])))
      (Answered b₀.part (q.requestsAt i [key])) time b := by
  cases q with
  | list q =>
    obtain rfl : key = q.key := List.mem_singleton.mp hkey
    have hrequests : (LiveQuery.list q).requestsAt i [q.key] =
        [⟨(i, none), ⟨.query, q.key, q.refetchParams.toQuery⟩⟩] := by
      simp [LiveQuery.requestsAt, LiveQuery.requests]
    rw [hrequests, partsOf_singleton] at hb
    rw [hrequests]
    have hslot : b.slot? i = some (.list q) :=
      slot?_of_part_list (congrArg Prod.snd ((hb rfl).symm.trans (part_of_slot? hq none)))
    refine answered_whole ?_
    rw [hb rfl]
    exact owning_refetchList hslot
  | record r =>
    obtain rfl : key = r.key := List.mem_singleton.mp hkey
    have hrequests : (LiveQuery.record r).requestsAt i [r.key] =
        [⟨(i, none), ⟨.query, r.key, RecordQuery.params r.id⟩⟩] := by
      simp [LiveQuery.requestsAt, LiveQuery.requests]
    rw [hrequests, partsOf_singleton] at hb
    rw [hrequests]
    have hslot : b.slot? i = some (.record r) :=
      slot?_of_part_record (congrArg Prod.snd ((hb rfl).symm.trans (part_of_slot? hq none)))
    refine answered_whole ?_
    rw [hb rfl]
    exact owning_fetchSingle hslot
  | aggregate a =>
    let entries := a.queries.filter (·.2.queryKey == key)
    have hrequests : (LiveQuery.aggregate a).requestsAt i [key] =
        entries.map fun e => ⟨(i, some e.1), ⟨.query, e.2.queryKey, e.2.bind a.entityId⟩⟩ := by
      simp [LiveQuery.requestsAt, LiveQuery.requests, entries, beq_eq_decide]
    have howns (e : String × QueryDescriptor) (he : e ∈ entries) :
        (i, some e.1) ∈ partsOf ((LiveQuery.aggregate a).requestsAt i [key]) := by
      rw [hrequests]
      exact List.mem_map.mpr ⟨_, List.mem_map_of_mem he, rfl⟩
    have hentries (e : String × QueryDescriptor) (he : e ∈ entries) : Dict.get? a.queries e.1 = some e.2 :=
      Dict.get?_of_mem hordered (List.mem_filter.mp he).1
    have hnodup : entries.Pairwise fun e e' => e.1 ≠ e'.1 :=
      (List.pairwise_map.mp (Dict.nodup_keys hordered)).filter _
    have hnames : (refetchNames i (entries.map (·.1))).Ensures _ _ time b :=
      owning_refetchNames hq hentries hnodup fun e he => hb (howns e he)
    rw [hrequests] at howns ⊢
    exact hnames.owning fun e he => Set.singleton_subset_iff.mpr (howns e he)

end Binder

end RecordScreens
