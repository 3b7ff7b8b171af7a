import RecordScreens.Proofs.Query.DeclaredNames
import RecordScreens.Proofs.Query.Parts

/-!
# Fetches of a whole aggregate

A fetch of the whole asks once for each name, and makes each known as soon as its own
reply is there, whatever becomes of the others. In the end the result is what each name
came to, in whatever order they did.
-/

namespace RecordScreens

/-! ## Names -/

/-- A name that was asked for, and the reply. -/
structure AskedName where
  name : String
  descriptor : QueryDescriptor
  reply : Reply

namespace AskedName

variable (entityId : Option String) (timeout : Nat) (n : AskedName)

def call : SourceCall := ⟨.query, n.descriptor.queryKey, n.descriptor.bind entityId⟩

/-- What the reply comes to for someone who waits no longer than `timeout`. -/
def outcome : Except QueryError Json := n.reply.answer n.descriptor.queryKey timeout

/-- How long it takes until the outcome is there. -/
def due : Nat := (n.reply.wait? timeout).getD 0

/-- The entry of the name in a result. -/
def entry : String × QueryState Json := (n.name, .ofResult (n.outcome timeout))

end AskedName

namespace Binder

variable {S : Type}

/-- What an aggregate knows of a name. -/
def known? (b : Binder S) (i : Nat) (name : String) : Option (QueryState Json) :=
  (b.aggregate? i).bind fun a => Dict.get? a.result name

/-- In one of the steps, a name that was pending is announced with its outcome as soon as that is there. -/
def Announces (i timeout time : Nat) (steps : List (TimedStep (Binder S))) (n : AskedName) : Prop :=
  ∃ step ∈ steps, step.time = time + n.due timeout ∧ step.before.known? i n.name = some .pending ∧
    step.after.known? i n.name = some (n.entry timeout).2 ∧ step.after.version i = step.before.version i + 1

variable {b : Binder S} {i : Nat} {a : AggregateQuery} {name : String}

theorem known?_of_slot? (h : b.slot? i = some (.aggregate a)) : b.known? i name = Dict.get? a.result name := by
  unfold known?
  rw [aggregate?_of_slot? h]
  rfl

/-- What is known of a name is a matter of its part. -/
theorem known?_eq_part (b : Binder S) (i : Nat) (name : String) :
    b.known? i name = (b.part (i, some name)).2.bind QueryPart.state? := by
  unfold known? part
  rw [aggregate?_eq]
  rcases b.slot? i with _ | ⟨q⟩ | ⟨q⟩ | ⟨a⟩ <;> rfl

theorem known?_of_part {timeout : Nat} (h : b.part (i, some name) = (timeout, some (a.part name))) :
    b.known? i name = Dict.get? a.result name := by
  rw [known?_eq_part, h]
  rfl

/-- To publish the outcome of a pending name is to announce it. -/
theorem announces_publish {timeout time : Nat} {n : AskedName} {steps : List (TimedStep (Binder S))}
    (ha : b.slot? i = some (.aggregate a)) (hpending : Dict.get? a.result n.name = some .pending)
    (hstep : ⟨time + n.due timeout, b, b.put i (.aggregate (a.publish n.name (n.entry timeout).2))⟩ ∈ steps) :
    Announces i timeout time steps n := by
  have htold : (b.put i (.aggregate (a.publish n.name (n.entry timeout).2))).slot? i =
      some (.aggregate (a.publish n.name (n.entry timeout).2)) := slot?_put_self _ ha
  refine ⟨_, hstep, rfl, (known?_of_slot? ha).trans hpending, ?_, ?_⟩
  · rw [known?_of_slot? htold]
    exact Dict.get?_insert_self ..
  · rw [version_eq (aggregate?_of_slot? htold), version_eq (aggregate?_of_slot? ha)]
    rfl

/-! ## Fetches of names -/

section

variable {b : Binder (Logged S)} {timeout time : Nat} {entry : String × QueryDescriptor}

/-- The name was asked for, announced, and is known in the end. -/
def Settles (i timeout time : Nat) (a : AggregateQuery) (entry : String × QueryDescriptor) :
    Routine.Post (Binder (Logged S)) Unit := fun _ steps b =>
  ∃ n : AskedName, (n.name, n.descriptor) = entry ∧ steps.flatMap (·.asked) = [⟨n.call a.entityId, n.reply⟩] ∧
    Announces i timeout time steps n ∧
    b.part (i, some n.name) = (timeout, some ((a.publish n.name (n.entry timeout).2).part n.name))

theorem settles_stable (i timeout time : Nat) (a : AggregateQuery) (entry : String × QueryDescriptor) :
    (Settles (S := S) i timeout time a entry).Stable (.owning part {(i, some entry.1)}) := by
  rintro _ steps b b' hb ⟨n, rfl, hasked, hannounced, hpart⟩
  exact ⟨n, rfl, hasked, hannounced, (hb rfl).symm.trans hpart⟩

/-- These names were asked for, each once, and each was announced and is known with its own outcome. -/
structure Settled (i timeout time : Nat) (entityId : Option String) (entries : List (String × QueryDescriptor))
    (asked : List AskedName) (steps : List (TimedStep (Binder (Logged S)))) (b : Binder (Logged S)) : Prop where
  entries_eq : asked.map (fun n => (n.name, n.descriptor)) = entries
  calls : (steps.flatMap (·.asked)).Perm (asked.map fun n => ⟨n.call entityId, n.reply⟩)
  announces : ∀ n ∈ asked, Announces i timeout time steps n
  known : ∀ n ∈ asked, b.known? i n.name = some (n.entry timeout).2

theorem Announces.mono {steps steps' : List (TimedStep (Binder S))} {n : AskedName}
    (h : Announces i timeout time steps n) (hsteps : steps ⊆ steps') : Announces i timeout time steps' n := by
  obtain ⟨step, hstep, hannounced⟩ := h
  exact ⟨step, hsteps hstep, hannounced⟩

theorem Settled.mono {entityId : Option String} {entries : List (String × QueryDescriptor)} {asked : List AskedName}
    {steps steps' : List (TimedStep (Binder (Logged S)))} (h : Settled i timeout time entityId entries asked steps b)
    (hsteps : steps ⊆ steps') (hasked : steps'.flatMap (·.asked) = steps.flatMap (·.asked)) :
    Settled i timeout time entityId entries asked steps' b :=
  ⟨h.entries_eq, hasked ▸ h.calls, fun n hn => (h.announces n hn).mono hsteps, h.known⟩

theorem Settled.stable {entityId : Option String} {entries : List (String × QueryDescriptor)} {asked : List AskedName}
    {steps : List (TimedStep (Binder (Logged S)))} {b' : Binder (Logged S)}
    (h : Settled i timeout time entityId entries asked steps b) (hb : Set.EqOn b.part b'.part {p | p.1 = i}) :
    Settled i timeout time entityId entries asked steps b' := by
  refine ⟨h.entries_eq, h.calls, h.announces, fun n hn => ?_⟩
  rw [known?_eq_part, ← hb rfl, ← known?_eq_part]
  exact h.known n hn

/-- All names of an aggregate were asked for, and each settled. -/
def SettlesAll (i timeout time : Nat) (a : AggregateQuery) : Routine.Post (Binder (Logged S)) AggregateResult :=
  fun _ steps b => ∃ asked, Settled i timeout time a.entityId a.queries asked steps b

theorem settlesAll_stable (i timeout time : Nat) (a : AggregateQuery) :
    (SettlesAll (S := S) i timeout time a).Stable (.owning part {p | p.1 = i}) := by
  rintro _ steps b b' hb ⟨asked, hsettled⟩
  exact ⟨asked, hsettled.stable hb⟩

theorem Settled.keys_eq {entityId : Option String} {entries : List (String × QueryDescriptor)} {asked : List AskedName}
    {steps : List (TimedStep (Binder (Logged S)))} (h : Settled i timeout time entityId entries asked steps b) :
    Dict.keys (asked.map (·.entry timeout)) = Dict.keys entries := by
  rw [← h.entries_eq]
  simp [Dict.keys, AskedName.entry]

theorem settled_each {entries : List (String × QueryDescriptor)} {found : List Unit}
    {steps : List (TimedStep (Binder (Logged S)))}
    (h : Routine.Post.all (Settles i timeout time a) entries found steps b) :
    ∃ asked, Settled i timeout time a.entityId entries asked steps b := by
  induction h with
  | nil => exact ⟨[], rfl, .refl _, nofun, nofun⟩
  | @cons entry _ own rest steps entries _ first _ hperm ih =>
    obtain ⟨n, rfl, hasked, hannounced, hpart⟩ := first
    obtain ⟨asked, hentries, hcalls, hannounces, hknown⟩ := ih
    have hown : own ⊆ steps := fun step hstep => hperm.mem_iff.mpr (List.mem_append_left _ hstep)
    have hrest : rest ⊆ steps := fun step hstep => hperm.mem_iff.mpr (List.mem_append_right _ hstep)
    have hn : b.known? i n.name = some (n.entry timeout).2 := (known?_of_part hpart).trans (Dict.get?_insert_self ..)
    refine ⟨n :: asked, by rw [List.map_cons, hentries], ?_, List.forall_mem_cons.mpr ⟨hannounced.mono hown, ?_⟩,
      List.forall_mem_cons.mpr ⟨hn, hknown⟩⟩
    · refine (hperm.flatMap_right _).trans ?_
      rw [List.flatMap_append, hasked]
      exact hcalls.cons _
    · exact fun m hm => (hannounces m hm).mono hrest

variable [DataSource S]

theorem owning_fetchPart (hpart : b.part (i, some entry.1) = (timeout, some (a.part entry.1)))
    (hpending : Dict.get? a.result entry.1 = some .pending) :
    (fetchPart i a.issued a.entityId entry.1 entry.2).Ensures (.owning part {(i, some entry.1)})
      (Settles i timeout time a entry) time b := by
  unfold fetchPart
  refine ensures_query (Set.eqOn_refl ..) (Set.eqOn_refl ..) fun b' hb' => ?_
  have hpart' : b'.part (i, some entry.1) = (timeout, some (a.part entry.1)) := (hb' rfl).symm.trans hpart
  have htimeout : b.timeout = timeout := congrArg Prod.fst hpart
  obtain ⟨a', ha', hqueries, hentity, hissued, hnumber, hstate⟩ := slot?_of_part_name (congrArg Prod.snd hpart')
  let n : AskedName := ⟨entry.1, entry.2, (ask entry.2.queryKey (entry.2.bind a.entityId) b).1⟩
  -- No other fetch was begun, so the outcome is taken in.
  have hsettle : a'.settle a.issued n.name (n.outcome timeout) = a'.publish n.name (n.entry timeout).2 := if_pos hissued
  let told := b'.put i (.aggregate (a'.publish n.name (n.entry timeout).2))
  have hupdate : b'.updateAggregate i (·.settle a.issued n.name (n.outcome timeout)) = told := by
    rw [updateAggregate_eq (aggregate?_of_slot? ha'), hsettle]
  have hanswer : (ask entry.2.queryKey (entry.2.bind a.entityId) b).1.answer entry.2.queryKey b.timeout =
      n.outcome timeout := htimeout ▸ rfl
  have hdue : time + ((ask entry.2.queryKey (entry.2.bind a.entityId) b).1.wait? b.timeout).getD 0 =
      time + n.due timeout := htimeout ▸ rfl
  rw [hanswer, hdue]
  refine ⟨owning_updateAggregate ha' fun other hne => ?_, ?_⟩
  · rw [hsettle]
    exact a'.part_publish_of_ne n.name _ hne
  · show Settles i timeout time a entry ()
      [_, _, ⟨_, b', b'.updateAggregate i (·.settle a.issued n.name (n.outcome timeout))⟩] (b'.updateAggregate i _)
    rw [hupdate]
    refine ⟨n, rfl, ?_, announces_publish ha' (hstate.trans hpending) (by simp [told]), ?_⟩
    · have hsource : told.source = b'.source := rfl
      rw [List.flatMap_cons, List.flatMap_cons, asked_ask, asked_of_source rfl, List.flatMap_singleton,
        asked_of_source hsource]
      rfl
    · have htimeout' : b'.timeout = timeout := congrArg Prod.fst hpart'
      rw [part_publish ha', AggregateQuery.part_publish_self, htimeout', hqueries, hentity, hissued, hnumber]

/-- A fetch of the whole of an aggregate that nobody else touches. -/
theorem owning_fetchAggregate (ha : b.slot? i = some (.aggregate a)) (hsorted : Dict.Sorted a.queries) :
    (fetchAggregate i).Ensures (.owning part {p | p.1 = i})
      (fun result steps b' => result = ((b'.aggregate? i).map (·.result)).getD [] ∧
        ∃ asked, Settled i b.timeout time a.entityId a.queries asked steps b') time b := by
  let begun := b.put i (.aggregate a.begin)
  have hbegun : begun.slot? i = some (.aggregate a.begin) := slot?_put_self _ ha
  have hupdate : b.updateAggregate i (·.begin) = begun := updateAggregate_eq (aggregate?_of_slot? ha) _
  have howns : Set.EqOn b.part begun.part {p | p.1 = i}ᶜ := eqOn_put ha fun n hn => absurd rfl hn
  unfold fetchAggregate
  refine ⟨?_, ?_⟩
  · rwa [hupdate]
  rw [hupdate]
  simp only [aggregate?_of_slot? ha]
  have hnodup : a.queries.Pairwise fun e e' => e.1 ≠ e'.1 := List.pairwise_map.mp (Dict.nodup_keys hsorted)
  have hall : (Routine.all (a.queries.map fun e => fetchPart i a.begin.issued a.entityId e.1 e.2)).Ensures
      (.each a.queries fun e => .owning part {(i, some e.1)})
      (Routine.Post.all (Settles i b.timeout time a.begin) a.queries) time begun := by
    refine Routine.ensures_all (fit_names i hnodup) (settles_stable i b.timeout time a.begin) fun e he b' hb' => ?_
    refine owning_fetchPart ((hb' rfl).symm.trans (part_of_slot? hbegun (some e.1))) ?_
    have hpending : Dict.get? a.begin.result e.1 = (Dict.get? a.queries e.1).map fun _ => .pending :=
      AggregateResult.get?_pending ..
    rw [hpending, Dict.get?_of_mem hsorted he]
    rfl
  have hwhole : ∀ e ∈ a.queries, {(i, some e.1)} ⊆ {p : Nat × Option String | p.1 = i} :=
    fun e _ => Set.singleton_subset_iff.mpr rfl
  refine Routine.Ensures.bind ((hall.owning hwhole).weaken fun _ steps b' heach time' => ?_)
  obtain ⟨asked, hsettled⟩ := settled_each heach
  refine ⟨Set.eqOn_refl .., rfl, asked, hsettled.mono (fun step hstep => ?_) ?_⟩
  · exact List.mem_cons_of_mem _ (List.mem_append_left _ hstep)
  · have hsource : begun.source = b.source := rfl
    have hread : (id b').source = b'.source := rfl
    rw [List.flatMap_cons, asked_of_source hsource, List.flatMap_append, List.flatMap_singleton, asked_of_source hread,
      List.append_nil, List.nil_append]

/-- The same of a fetch that is begun later, when nobody has touched the aggregate in the meantime. -/
theorem settles_fetchAggregate (ha : b.slot? i = some (.aggregate a)) (hsorted : Dict.Sorted a.queries)
    {b' : Binder (Logged S)} (hb' : Set.EqOn b.part b'.part {p | p.1 = i}) :
    (fetchAggregate i).Ensures (.owning part {p | p.1 = i}) (SettlesAll i b.timeout time a) time b' := by
  have hpart : b'.part (i, some "") = (b.timeout, some (a.part "")) := (hb' rfl).symm.trans (part_of_slot? ha (some ""))
  obtain ⟨a', ha', hqueries, hentity, -⟩ := slot?_of_part_name (congrArg Prod.snd hpart)
  have htimeout : b'.timeout = b.timeout := congrArg Prod.fst hpart
  rw [← hqueries] at hsorted
  refine (owning_fetchAggregate ha' hsorted).weaken ?_
  rintro _ steps b'' ⟨-, asked, hsettled⟩
  rw [htimeout, hqueries, hentity] at hsettled
  exact ⟨asked, hsettled⟩

end

end Binder

/-! ## Results -/

namespace AggregateResult

theorem isReady_entries (timeout : Nat) (asked : List AskedName) : isReady (asked.map (·.entry timeout)) = true := by
  unfold isReady
  rw [List.all_map, List.all_eq_true]
  intro n _
  cases h : n.outcome timeout <;> simp [AskedName.entry, h, QueryState.ofResult, QueryState.isPending]

theorem failed_entries (timeout : Nat) (asked : List AskedName) :
    failed (asked.map (·.entry timeout)) = (asked.filter fun n => !(n.outcome timeout).isOk).map (·.name) := by
  have herror (n : AskedName) : (n.entry timeout).2.isError = !(n.outcome timeout).isOk := by
    cases h : n.outcome timeout <;> simp [AskedName.entry, h, QueryState.ofResult, QueryState.isError, Except.isOk,
      Except.toBool]
  unfold failed
  rw [List.filter_map, Dict.keys, List.map_map]
  simp only [Function.comp_def, herror]
  rfl

theorem isReady_iff {r : AggregateResult} (hsorted : Dict.Sorted r) :
    r.isReady = true ↔ ∀ name, Dict.get? r name ≠ some .pending := by
  unfold isReady
  rw [List.all_eq_true]
  constructor
  · intro h name hname
    have := h _ (Dict.mem_of_get? hname)
    cases this
  · rintro h ⟨name, state⟩ hmem
    cases state with
    | pending => exact absurd (Dict.get?_of_mem hsorted hmem) (h name)
    | data v => rfl
    | error e => rfl

end AggregateResult

namespace Binder

variable {S : Type}

/-- What an aggregate knows in the end, if it declares names and each is known with its own outcome. -/
theorem Settled.result_eq {i timeout time : Nat} {entityId : Option String} {queries : Dict QueryDescriptor}
    {asked : List AskedName} {steps : List (TimedStep (Binder (Logged S)))} {b : Binder (Logged S)} {a : AggregateQuery}
    (h : Settled i timeout time entityId queries asked steps b) (hsorted : Dict.Sorted queries)
    (ha : b.slot? i = some (.aggregate a)) (hdeclares : a.Declares queries) :
    a.result = asked.map (·.entry timeout) := by
  have hentries : Dict.Sorted (asked.map (·.entry timeout)) := by
    unfold Dict.Sorted
    rwa [h.keys_eq]
  have hkeys : Dict.keys a.result = Dict.keys (asked.map (·.entry timeout)) := hdeclares.keys_eq.trans h.keys_eq.symm
  refine Dict.ext_get? (hkeys ▸ Dict.nodup_keys hentries) hkeys fun name hname => ?_
  rw [hkeys, Dict.keys, List.map_map] at hname
  obtain ⟨n, hn, rfl⟩ := List.mem_map.mp hname
  have hentry : Dict.get? (asked.map (·.entry timeout)) n.name = some (n.entry timeout).2 :=
    Dict.get?_of_mem hentries (List.mem_map_of_mem hn)
  exact (known?_of_slot? ha).symm.trans ((h.known n hn).trans hentry.symm)

variable [DataSource S] {queries : Dict QueryDescriptor}

theorem beside_refetchName_undeclared {b : Binder (Logged S)} {i : Nat} {a : AggregateQuery} {name : String}
    (ha : b.aggregate? i = some a) (hname : Dict.get? a.queries name = none)
    (others : Nat → Binder (Logged S) → Binder (Logged S)) (time : Nat) :
    (refetchName i name).beside others time b = { result := false, steps := [⟨time, b, b⟩], state := b } := by
  unfold refetchName
  unfold Routine.beside
  simp only [ha, hname]
  rfl

/-- A fetch of the whole of an aggregate asks once for each name, announces each as soon as its own reply is there, and
ends with the outcome of each. However fetches overlap, the names are those that were declared. -/
theorem fetch_settles_names (hsorted : Dict.Sorted queries) (i : Nat) :
    (∀ (b : Binder (Logged S)) (a : AggregateQuery) (others : Nat → Elsewhere (Logged S) i) (time : Nat),
      b.aggregate? i = some a → a.Declares queries →
        let ran := (fetchAggregate i).beside (fun n => (others n).change) time b
        ∃ asked, Settled i b.timeout time a.entityId queries asked ran.steps ran.state ∧
          ran.result = asked.map (·.entry b.timeout) ∧ ran.result.isReady = true ∧
          ran.result.failed = (asked.filter fun n => !(n.outcome b.timeout).isOk).map (·.name)) ∧
    (∀ (b : Binder (Logged S)) (entityId : Option String) (events : List (AggregateEvent S i)),
      b.aggregate? i = some (.ofQueries queries entityId) →
        ∃ a, (Overlap.happened events { binder := b }).binder.aggregate? i = some a ∧ a.Declares queries ∧
          (a.result.isReady = true ↔ ∀ name, Dict.get? a.result name ≠ some .pending)) ∧
    (∀ (b : Binder (Logged S)) (a : AggregateQuery) (name : String)
      (others : Nat → Binder (Logged S) → Binder (Logged S)) (time : Nat), b.aggregate? i = some a →
        a.Declares queries → name ∉ Dict.keys queries →
        (refetchName i name).beside others time b = { result := false, steps := [⟨time, b, b⟩], state := b }) := by
  refine ⟨fun b a others time ha hdeclares => ?_, fun b entityId events hb => ?_, ?_⟩
  · obtain rfl := hdeclares.queries_eq
    have hslot : b.slot? i = some (.aggregate a) := slot?_of_aggregate? ha
    have hothers (n : Nat) (b' : Binder (Logged S)) : Set.EqOn b'.part ((others n).change b').part {p | p.1 = i} := by
      rintro ⟨j, name⟩ rfl
      rw [part, part, (others n).slot?_eq, (others n).timeout_eq]
    have hensures : (fetchAggregate i).Ensures _ _ time b := owning_fetchAggregate hslot hsorted
    obtain ⟨-, hresult, asked, hsettled⟩ := hensures.beside hothers
    obtain ⟨-, a', ha', hdeclares'⟩ := (declares_fetchAggregate hsorted i).beside (fun _ _ _ h => h)
      (fun n b' hb' => hb'.of_slot? ((others n).slot?_eq b')) time ⟨a, hslot, hdeclares⟩
    rw [aggregate?_of_slot? ha', Option.map_some, Option.getD_some,
      hsettled.result_eq hsorted ha' hdeclares'] at hresult
    refine ⟨asked, hsettled, hresult, ?_, ?_⟩
    · rw [hresult]
      exact AggregateResult.isReady_entries b.timeout asked
    · rw [hresult]
      exact AggregateResult.failed_entries b.timeout asked
  · have hdeclares : ({ binder := b } : Overlap S AggregateCall Unit).Declares i queries :=
      ⟨⟨_, slot?_of_aggregate? hb, AggregateQuery.declares_ofQueries queries entityId⟩, List.forall_mem_nil _⟩
    obtain ⟨a, ha, hnames⟩ := (hdeclares.happened hsorted events).binder
    have hresult : Dict.Sorted a.result := by
      unfold Dict.Sorted
      rwa [hnames.keys_eq]
    exact ⟨a, aggregate?_of_slot? ha, hnames, AggregateResult.isReady_iff hresult⟩
  · intro b a name others time ha hdeclares hname
    refine beside_refetchName_undeclared ha ?_ others time
    rw [hdeclares.queries_eq]
    cases hd : Dict.get? queries name with
    | none => rfl
    | some d => exact absurd (Dict.mem_keys_of_get? hd) hname

/-- What is shown of a candidate: activities that are about the candidate, numbers and tasks. -/
def candidateQueries : Dict QueryDescriptor := Dict.ofList [
  ("tasks", { queryKey := "tasks" }), ("stats", { queryKey := "stats" }),
  ("activities", { queryKey := "activities", params := [("entityId", .string entityIdPlaceholder)] })]

/-- The numbers fail at once, the activities come later and the tasks too late. -/
def candidate : Binder (Logged Scripted) where
  source := { source := { script := [("activities", [{ delay := some 20, result := some (.ok (.string "call")) }]),
    ("stats", [{ result := some (.error "down") }]), ("tasks", [{ delay := some 50 }])] } }
  timeout := 30
  queries := [{ query := .aggregate (.ofQueries candidateQueries (some "7")) }]

/-- Another screen shows the candidate as well. -/
def shownTwice : Elsewhere (Logged Scripted) 0 := ⟨retain 0, fun b => slot?_retain b 0 0, fun _ => rfl⟩

def candidateFetched : Ran (Binder (Logged Scripted)) AggregateResult :=
  (fetchAggregate 0).beside (fun _ => shownTwice.change) 0 candidate

def candidateEvents : List (AggregateEvent Scripted 0) := [.call .fetch, .call (.refetch "stats"),
  .elsewhere shownTwice, .call (.invalidate ["tasks", "other"]), .arrive 0]

/-- Two of the three names fail, and none of them can keep the others from being there. -/
theorem fetch_settles_names_candidate :
    (∃ asked, Settled 0 30 0 (some "7") candidateQueries asked candidateFetched.steps candidateFetched.state ∧
      candidateFetched.result = asked.map (·.entry 30)) ∧
      candidateFetched.result = [("activities", .data (.string "call")), ("stats", .error (.source "stats" "down")),
        ("tasks", .error (.timeout "tasks" 30))] ∧
      candidateFetched.result.isReady = true ∧ candidateFetched.result.failed = ["stats", "tasks"] ∧
      (∃ a, (Overlap.happened candidateEvents { binder := candidate }).binder.aggregate? 0 = some a ∧
        Dict.keys a.result = ["activities", "stats", "tasks"]) ∧
      ((refetchName 0 "notes").beside (fun _ => shownTwice.change) 0 candidate).result = false := by
  have hdeclares := AggregateQuery.declares_ofQueries candidateQueries (some "7")
  obtain ⟨hfetch, hevents, hunknown⟩ := fetch_settles_names (S := Scripted) (Dict.sorted_ofList _) 0
  obtain ⟨asked, hsettled, hresult, hready, -⟩ := hfetch candidate _ (fun _ => shownTwice) 0 rfl hdeclares
  obtain ⟨a, ha, hnames, -⟩ := hevents candidate (some "7") candidateEvents rfl
  refine ⟨⟨asked, hsettled, hresult⟩, ?_, hready, ?_, ⟨a, ha, hnames.keys_eq.trans ?_⟩, ?_⟩
  · decide +kernel
  · decide +kernel
  · decide +kernel
  · exact congrArg Ran.result (hunknown candidate _ "notes" _ 0 rfl hdeclares (by decide +kernel))

end Binder

end RecordScreens
