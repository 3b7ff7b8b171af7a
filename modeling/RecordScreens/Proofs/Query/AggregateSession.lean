import RecordScreens.Proofs.Dict
import RecordScreens.Proofs.Query.Overlap
import RecordScreens.Proofs.Query.Traffic

/-!
# Overlapping fetches of an aggregate

Fetches of the whole, of single names and of what depends on a key, begun on one
aggregate in any order, with their answers arriving in any order. The requests that they
issue and the answers that are published are those of the traffic of the aggregate.
-/

namespace RecordScreens

open Binder Overlap

variable {S : Type}

/-! ## Sessions -/

/-- A request under way: the name, whether it is fetched alone, and the names that are fetched after it. -/
structure AggregateTask where
  name : String
  alone : Bool
  next : List String := []

/-- The requests that were issued for an aggregate on a binder, and what the aggregate has announced. -/
structure AggregateSession (S : Type) where
  overlap : Overlap S AggregateTask Unit
  announced : List Announcement := []

namespace AggregateSession

/-- Goes on to what a burst of the request in place `k` has left. If the aggregate has a new version then, that is
the answer to this request. -/
def note (i k : Nat) (o : Overlap S AggregateTask Unit) (s : AggregateSession S) : AggregateSession S where
  overlap := o
  announced :=
    if o.binder.version i = s.overlap.binder.version i then s.announced else s.announced ++ [.published k]

/-- Issues a request. -/
def ask (i : Nat) (task : AggregateTask) (r : Routine (Binder (Logged S)) Unit) (s : AggregateSession S) :
    AggregateSession S :=
  s.note i s.overlap.begun.length (s.overlap.begin task r)

/-- The fetch of the whole makes all names pending. -/
def reset (i : Nat) (s : AggregateSession S) : AggregateSession S where
  overlap := { s.overlap with binder := s.overlap.binder.updateAggregate i (·.begin) }
  announced := s.announced ++ [.reset s.overlap.begun.length]

variable [DataSource S]

/-- Fetches the whole: all names at once. -/
def fetch (i : Nat) (s : AggregateSession S) : AggregateSession S :=
  match s.overlap.binder.aggregate? i with
  | none => s
  | some q => q.queries.foldl
      (fun s entry =>
        s.ask i { name := entry.1, alone := false } (fetchPart i q.begin.issued q.entityId entry.1 entry.2))
      (s.reset i)

/-- Fetches names alone, one after the other; the next one when the answer to the one before is there. -/
def refetch (i : Nat) : List String → AggregateSession S → AggregateSession S
  | [], s => s
  | name :: rest, s =>
    match (s.overlap.binder.aggregate? i).bind fun q => Dict.get? q.queries name with
    | none => refetch i rest s
    | some _ =>
      let s' := s.ask i { name, alone := true, next := rest } ((refetchName i name).bind fun _ => .done ())
      if (s'.overlap.newest?.map (·.rest.waits)).getD false then s' else refetch i rest s'

/-- The answer to the request in place `k` arrives. -/
def arrive (i k : Nat) (s : AggregateSession S) : AggregateSession S :=
  match s.overlap.begun[k]? with
  | some f => if f.rest.waits then refetch i f.label.next (s.note i k (s.overlap.arrive k)) else s
  | none => s

/-- What may happen to an aggregate in place `i`. -/
inductive Move (S : Type) (i : Nat) where
  | fetch
  | refetch (name : String)
  | invalidate (key : String)
  | arrive (k : Nat)
  | elsewhere (e : Elsewhere (Logged S) i)

def move {i : Nat} (s : AggregateSession S) : Move S i → AggregateSession S
  | .fetch => s.fetch i
  | .refetch name => s.refetch i [name]
  | .invalidate key => s.refetch i (((s.overlap.binder.aggregate? i).map (·.namesOf key)).getD [])
  | .arrive k => s.arrive i k
  | .elsewhere e => { s with overlap := s.overlap.elsewhere e }

def run {i : Nat} (moves : List (Move S i)) (s : AggregateSession S) : AggregateSession S := moves.foldl move s

end AggregateSession

/-! ## Bursts of requests -/

namespace Binder

variable {b : Binder S} {i : Nat} {q : AggregateQuery}

theorem updateAggregate_eq (h : b.aggregate? i = some q) (f : AggregateQuery → AggregateQuery) :
    b.updateAggregate i f = b.put i (.aggregate (f q)) := by
  unfold updateAggregate
  rw [h]

theorem aggregate?_put (h : b.aggregate? i = some q) (q' : AggregateQuery) :
    (b.put i (.aggregate q')).aggregate? i = some q' := by
  rw [aggregate?_eq, slot?_put_self _ (slot?_of_aggregate? h)]
  rfl

theorem version_eq (h : b.aggregate? i = some q) : b.version i = q.watch.version := by
  have hslot := slot?_of_aggregate? h
  unfold slot? at hslot
  unfold version
  obtain ⟨r, hr, hquery⟩ := Option.map_eq_some_iff.mp hslot
  rw [hr]
  simp [hquery, LiveQuery.version]

end Binder

/-- What is left of a request takes in its answer, and does nothing else. -/
def AggregateRequest.Settles (i : Nat) (a : AggregateRequest) (rest : Routine (Binder (Logged S)) Unit) : Prop :=
  ∀ {b : Binder (Logged S)} {q : AggregateQuery}, b.aggregate? i = some q →
    rest.wake b = (.done (), b.put i (.aggregate (q.takeIn a)))

/-- What the burst that issues a request leaves of the binder `b`: the begun query `q`, or what the answer made
of it. -/
structure AggregateRequest.Issues (i : Nat) (q : AggregateQuery) (a : AggregateRequest) (b : Binder (Logged S))
    (left : Routine (Binder (Logged S)) Unit × Binder (Logged S)) : Prop where
  asked : ∃ taken : TakenCall, left.2.source.taken = b.source.taken ++ [taken] ∧
    taken.reply.answer taken.call.key b.timeout = a.answer
  timeout_eq : left.2.timeout = b.timeout
  waiting : left.1.waits = true → left.2.aggregate? i = some q ∧ a.Settles i left.1
  ended : left.1.waits = false → left.1 = .done () ∧ left.2.aggregate? i = some (q.takeIn a)

namespace AggregateRequest

variable [DataSource S]

/-- A routine that asks the source and then takes the answer in issues a request. -/
theorem issues_query {b : Binder (Logged S)} {i : Nat} {old q : AggregateQuery} (key : String) (params : Json)
    (a : Except QueryError Json → AggregateRequest)
    (finish : Except QueryError Json → Routine (Binder (Logged S)) Unit) (hold : b.aggregate? i = some old)
    (ha : ∀ answer, (a answer).answer = answer)
    (hfinish : ∀ (answer : Except QueryError Json) {b : Binder (Logged S)} {q : AggregateQuery},
      b.aggregate? i = some q → (finish answer).advance b = (.done (), b.put i (.aggregate (q.takeIn (a answer))))) :
    ∃ answer, (a answer).Issues i q b (((query key params).bind finish).advance (b.put i (.aggregate q))) := by
  have hhere : (Binder.ask key params (b.put i (.aggregate q))).2.aggregate? i = some q := aggregate?_put hold q
  have hasked : (Binder.ask key params (b.put i (.aggregate q))).2.source.taken =
      b.source.taken ++ [⟨⟨.query, key, params⟩, (Binder.ask key params (b.put i (.aggregate q))).1⟩] :=
    taken_ask ..
  refine ⟨(Binder.ask key params (b.put i (.aggregate q))).1.answer key b.timeout, ?_⟩
  rw [advance_query, timeout_put]
  cases (Binder.ask key params (b.put i (.aggregate q))).1.wait? b.timeout with
  | none =>
    have hdone := hfinish ((Binder.ask key params (b.put i (.aggregate q))).1.answer key b.timeout) hhere
    refine ⟨⟨_, (congrArg (·.2.source.taken) hdone).trans hasked, ?_⟩, ?_, fun hopen => ?_, fun _ => ?_⟩
    · exact (ha _).symm
    · exact congrArg (·.2.timeout) hdone
    · have hopen' : (Routine.done () : Routine (Binder (Logged S)) Unit).waits = true := by
        rw [← hopen]
        exact (congrArg (·.1.waits) hdone).symm
      cases hopen'
    · exact ⟨congrArg (·.1) hdone, (congrArg (·.2.aggregate? i) hdone).trans (aggregate?_put hhere _)⟩
  | some millis =>
    refine ⟨⟨_, hasked, ?_⟩, rfl, fun _ => ⟨hhere, fun hb => hfinish _ hb⟩, fun hended => by cases hended⟩
    exact (ha _).symm

/-- The part of a fetch of the whole that asks for a name. -/
theorem issues_fetchPart {b : Binder (Logged S)} {i : Nat} {q : AggregateQuery} (hq : b.aggregate? i = some q)
    (name : String) (descriptor : QueryDescriptor) :
    ∃ answer, (q.request false name answer).Issues i q b
      ((fetchPart i q.issued q.entityId name descriptor).advance b) := by
  have hput : b.put i (.aggregate q) = b := put_self (slot?_of_aggregate? hq)
  have hissues := issues_query (q := q) descriptor.queryKey (descriptor.bind q.entityId)
    (fun answer => q.request false name answer)
    (fun answer => Routine.modify (updateAggregate i (·.settle q.issued name answer))) hq (fun _ => rfl)
    fun answer b' q' hq' => by rw [Routine.advance_modify, updateAggregate_eq hq']; rfl
  rw [hput] at hissues
  exact hissues

/-- The burst that begins the fetch of a name alone. -/
theorem advance_refetchName {b : Binder (Logged S)} {i : Nat} {q : AggregateQuery} (hq : b.aggregate? i = some q)
    {name : String} {descriptor : QueryDescriptor} (hname : Dict.get? q.queries name = some descriptor)
    {α : Type} (k : Bool → Routine (Binder (Logged S)) α) :
    ((refetchName i name).bind k).advance b =
      ((query descriptor.queryKey (descriptor.bind q.entityId)).bind fun answer =>
        (Routine.modify (updateAggregate i
          (·.settleName (q.issuedFor name + 1) q.issued name answer))).bind fun _ => k true).advance
        (b.put i (.aggregate (q.beginName name))) := by
  rw [← updateAggregate_eq hq]
  unfold refetchName
  simp only [Routine.bind, Routine.advance_act, id, hq, hname, Routine.bind_eq, Routine.bind_assoc]
  rfl

/-- The fetch of a name alone. -/
theorem issues_refetchName {b : Binder (Logged S)} {i : Nat} {q : AggregateQuery} (hq : b.aggregate? i = some q)
    {name : String} {descriptor : QueryDescriptor} (hname : Dict.get? q.queries name = some descriptor) :
    ∃ answer, ((q.beginName name).request true name answer).Issues i (q.beginName name) b
      (((refetchName i name).bind fun _ => .done ()).advance b) := by
  have hnumber : (q.beginName name).issuedFor name = q.issuedFor name + 1 := by
    rw [AggregateQuery.issuedFor_beginName, if_pos rfl]
  rw [advance_refetchName hq hname]
  apply issues_query _ _ _ _ hq (fun _ => rfl)
  intro answer b' q' hq'
  rw [← hnumber]
  exact congrArg (Prod.mk _) (updateAggregate_eq hq' _)

end AggregateRequest

/-! ## Sessions and traffic -/

namespace AggregateSession

/-- A request under way as one of the traffic. -/
structure Sends (i timeout : Nat) (f : Begun S AggregateTask Unit) (a : AggregateRequest) : Prop where
  name_eq : f.label.name = a.name
  alone_eq : f.label.alone = a.alone
  answer_eq : f.answer? timeout = some a.answer
  settles : f.rest.waits = true → a.Settles i f.rest

/-- A session shows the traffic of the aggregate in place `i`. -/
structure Tracks (i timeout : Nat) (s : AggregateSession S) (t : AggregateTraffic) : Prop where
  here : s.overlap.binder.aggregate? i = some t.query
  timeout_eq : s.overlap.binder.timeout = timeout
  announced_eq : s.announced = t.announced
  length_eq : s.overlap.begun.length = t.requests.length
  sends : ∀ {k : Nat} {f : Begun S AggregateTask Unit} {a : AggregateRequest}, s.overlap.begun[k]? = some f →
    t.requests[k]? = some a → Sends i timeout f a
  waits_iff : ∀ {k : Nat} {f : Begun S AggregateTask Unit}, s.overlap.begun[k]? = some f →
    (f.rest.waits = true ↔ k ∉ t.arrived)
  inv : t.Inv

variable {i timeout : Nat} {s : AggregateSession S} {t : AggregateTraffic}

@[simp] theorem overlap_note (i k : Nat) (o : Overlap S AggregateTask Unit) (s : AggregateSession S) :
    (s.note i k o).overlap = o := rfl

theorem sends_started {task : AggregateTask} {r : Routine (Binder (Logged S)) Unit} {b : Binder (Logged S)}
    {q : AggregateQuery} {a : AggregateRequest} (h : a.Issues i q b (r.advance b)) (hname : task.name = a.name)
    (halone : task.alone = a.alone) : Sends i b.timeout (started task r b) a where
  name_eq := hname
  alone_eq := halone
  answer_eq := by
    obtain ⟨taken, hasked, hanswer⟩ := h.asked
    unfold Begun.answer? started
    simp only [hasked, List.drop_left]
    exact congrArg some hanswer
  settles hwaits := (h.waiting hwaits).2

/-- What the session announces with the answer to a request is what the traffic does. -/
theorem announced_note {o : Overlap S AggregateTask Unit} {q : AggregateQuery} (h : Tracks i timeout s t)
    {a : AggregateRequest} (hversion : q.watch.version = t.query.watch.version)
    (ho : o.binder.aggregate? i = some (q.takeIn a)) (k : Nat) :
    (s.note i k o).announced = if q.Wants a then t.announced ++ [.published k] else t.announced := by
  -- The version counts publications, so it is a new one just when the answer was wanted.
  unfold note
  rw [version_eq ho, version_eq h.here, AggregateQuery.version_takeIn, hversion, h.announced_eq]
  by_cases hwants : q.Wants a
  · rw [if_pos hwants, if_pos hwants, if_neg (Nat.succ_ne_self _)]
  · rw [if_neg hwants, if_neg hwants, if_pos rfl]

theorem Tracks.settle (h : Tracks i timeout s t) {k : Nat} {f : Begun S AggregateTask Unit}
    (hf : s.overlap.begun[k]? = some f) (hwaits : f.rest.waits = true) :
    Tracks i timeout (s.note i k (s.overlap.arrive k)) (t.settle k) := by
  have hk : k < t.requests.length := by
    rw [← h.length_eq]
    exact (List.getElem?_eq_some_iff.mp hf).1
  obtain ⟨a, ha⟩ : ∃ a, t.requests[k]? = some a := ⟨_, List.getElem?_eq_getElem hk⟩
  have hopen : k ∉ t.arrived := (h.waits_iff hf).mp hwaits
  have hwake := (h.sends hf ha).settles hwaits h.here
  have hbinder : (s.overlap.arrive k).binder = s.overlap.binder.put i (.aggregate (t.query.takeIn a)) := by
    rw [arrive_of_getElem? hf, hwake]
  have hhere : (s.overlap.arrive k).binder.aggregate? i = some (t.query.takeIn a) := by
    rw [hbinder]
    exact aggregate?_put h.here _
  have hannounced := announced_note h rfl hhere k
  have hinv := h.inv.settle k
  rw [AggregateTraffic.settle_of_open ha hopen] at hinv ⊢
  refine ⟨hhere, ?_, hannounced, ?_, ?_, ?_, hinv⟩
  · show (s.overlap.arrive k).binder.timeout = timeout
    rw [hbinder, timeout_put, h.timeout_eq]
  · exact (length_arrive ..).trans h.length_eq
  · intro j g c hg hc
    rw [overlap_note] at hg
    -- The request that has its answer asks for nothing more.
    by_cases hkj : k = j
    · subst hkj
      rw [getElem?_arrive_self hf, hwake] at hg
      cases hg
      have hsends := h.sends hf hc
      exact ⟨hsends.name_eq, hsends.alone_eq, hsends.answer_eq, fun hnever => by cases hnever⟩
    · rw [getElem?_arrive_of_ne hkj] at hg
      exact h.sends hg hc
  · intro j g hg
    rw [overlap_note] at hg
    by_cases hkj : k = j
    · subst hkj
      rw [getElem?_arrive_self hf, hwake] at hg
      cases hg
      simp
    · rw [getElem?_arrive_of_ne hkj] at hg
      rw [h.waits_iff hg, List.mem_cons, not_or]
      exact ⟨fun hj => ⟨fun heq => hkj heq.symm, hj⟩, fun hj => hj.2⟩

section

variable {task : AggregateTask} {r : Routine (Binder (Logged S)) Unit} {answer : Except QueryError Json}

/-- The requests of a session and of the traffic are the same after one more. -/
theorem Tracks.sends_ask (h : Tracks i timeout s t)
    (hissues : ((t.query.asking task.alone task.name).request task.alone task.name answer).Issues i
      (t.query.asking task.alone task.name) s.overlap.binder (r.advance s.overlap.binder))
    {k : Nat} {f : Begun S AggregateTask Unit} {a : AggregateRequest}
    (hf : (s.ask i task r).overlap.begun[k]? = some f)
    (ha : (t.ask task.alone task.name answer).requests[k]? = some a) : Sends i timeout f a := by
  rcases getElem?_concat_cases hf with hf | ⟨rfl, rfl⟩
  · rw [AggregateTraffic.getElem?_ask_of_lt (h.length_eq ▸ (List.getElem?_eq_some_iff.mp hf).1)] at ha
    exact h.sends hf ha
  · rw [h.length_eq] at ha
    cases List.getElem?_concat_length.symm.trans ha
    exact h.timeout_eq ▸ sends_started hissues rfl rfl

theorem Tracks.length_ask (h : Tracks i timeout s t) :
    (s.ask i task r).overlap.begun.length = (t.ask task.alone task.name answer).requests.length := by
  show (s.overlap.begin task r).begun.length = _
  rw [length_begin, h.length_eq]
  simp [AggregateTraffic.ask]

theorem Tracks.not_arrived (h : Tracks i timeout s t) : t.requests.length ∉ t.arrived :=
  fun hmem => Nat.lt_irrefl _ (h.inv.answered hmem)

/-- A request that is issued waits for its answer. -/
theorem Tracks.ask_waiting (h : Tracks i timeout s t)
    (hissues : ((t.query.asking task.alone task.name).request task.alone task.name answer).Issues i
      (t.query.asking task.alone task.name) s.overlap.binder (r.advance s.overlap.binder))
    (hinv : (t.ask task.alone task.name answer).Inv) (hwaits : (r.advance s.overlap.binder).1.waits = true) :
    Tracks i timeout (s.ask i task r) (t.ask task.alone task.name answer) := by
  obtain ⟨hhere, -⟩ := hissues.waiting hwaits
  refine ⟨hhere, hissues.timeout_eq.trans h.timeout_eq, ?_, h.length_ask, h.sends_ask hissues, ?_, hinv⟩
  · -- The beginning of a fetch announces nothing.
    show (s.note i s.overlap.begun.length (s.overlap.begin task r)).announced = t.announced
    unfold note
    have hversion : (s.overlap.begin task r).binder.version i = s.overlap.binder.version i := by
      rw [version_eq h.here, version_eq (b := (s.overlap.begin task r).binder) hhere, AggregateQuery.watch_asking]
    rw [if_pos hversion, h.announced_eq]
  · intro k f hf
    rcases getElem?_concat_cases hf with hf | ⟨rfl, rfl⟩
    · exact h.waits_iff hf
    · rw [h.length_eq]
      exact ⟨fun _ => h.not_arrived, fun _ => hwaits⟩

/-- A request that is issued has its answer at once. -/
theorem Tracks.ask_ended (h : Tracks i timeout s t)
    (hissues : ((t.query.asking task.alone task.name).request task.alone task.name answer).Issues i
      (t.query.asking task.alone task.name) s.overlap.binder (r.advance s.overlap.binder))
    (hinv : (t.ask task.alone task.name answer).Inv) (hwaits : (r.advance s.overlap.binder).1.waits = false) :
    Tracks i timeout (s.ask i task r) ((t.ask task.alone task.name answer).settle t.requests.length) := by
  obtain ⟨-, hhere⟩ := hissues.ended hwaits
  have hinv' := hinv.settle t.requests.length
  have hlength : (s.ask i task r).overlap.begun.length = (t.ask task.alone task.name answer).requests.length :=
    h.length_ask
  rw [AggregateTraffic.settle_of_open (t := t.ask task.alone task.name answer) List.getElem?_concat_length
    h.not_arrived] at hinv' ⊢
  refine ⟨hhere, hissues.timeout_eq.trans h.timeout_eq, ?_, hlength, h.sends_ask hissues, ?_, hinv'⟩
  · have hversion : (t.query.asking task.alone task.name).watch.version = t.query.watch.version := by
      rw [AggregateQuery.watch_asking]
    have hannounced := announced_note (o := s.overlap.begin task r) h hversion hhere s.overlap.begun.length
    rw [h.length_eq] at hannounced
    exact (congrArg (fun k => (s.note i k (s.overlap.begin task r)).announced) h.length_eq).trans hannounced
  · intro k f hf
    rw [List.mem_cons, not_or]
    rcases getElem?_concat_cases hf with hf | ⟨rfl, rfl⟩
    · have hlt : k < s.overlap.begun.length := (List.getElem?_eq_some_iff.mp hf).1
      rw [h.waits_iff hf]
      exact ⟨fun hk => ⟨by rw [← h.length_eq]; exact Nat.ne_of_lt hlt, hk⟩, fun hk => hk.2⟩
    · rw [h.length_eq]
      exact ⟨fun hnever => by simp [started, hwaits] at hnever, fun hk => absurd rfl hk.1⟩

/-- A request is issued, and perhaps answered at once. -/
theorem Tracks.ask (h : Tracks i timeout s t) (task : AggregateTask)
    (hissues : ((t.query.asking task.alone task.name).request task.alone task.name answer).Issues i
      (t.query.asking task.alone task.name) s.overlap.binder (r.advance s.overlap.binder))
    (hfirst : task.alone = false → ∀ {k : Nat} {a : AggregateRequest}, t.requests[k]? = some a → a.name = task.name →
      a.whole < t.query.issued) :
    ∃ t', Tracks i timeout (s.ask i task r) t' ∧ t'.query.Like t.query ∧
      t'.requests = t.requests ++ [(t.query.asking task.alone task.name).request task.alone task.name answer] := by
  have hinv := h.inv.ask answer hfirst
  have hlike := AggregateQuery.like_asking t.query task.alone task.name
  cases hwaits : (r.advance s.overlap.binder).1.waits with
  | true => exact ⟨_, h.ask_waiting hissues hinv hwaits, hlike, rfl⟩
  | false =>
    refine ⟨_, h.ask_ended hissues hinv hwaits, ?_, AggregateTraffic.requests_settle ..⟩
    exact (AggregateTraffic.like_settle ..).trans hlike

end

theorem Tracks.reset (h : Tracks i timeout s t) : Tracks i timeout (s.reset i) t.reset where
  here := by
    show (s.overlap.binder.updateAggregate i (·.begin)).aggregate? i = some t.query.begin
    rw [updateAggregate_eq h.here]
    exact aggregate?_put h.here _
  timeout_eq := by
    show (s.overlap.binder.updateAggregate i (·.begin)).timeout = timeout
    rw [updateAggregate_eq h.here, timeout_put, h.timeout_eq]
  announced_eq := by
    show s.announced ++ [.reset s.overlap.begun.length] = t.announced ++ [.reset t.requests.length]
    rw [h.announced_eq, h.length_eq]
  length_eq := h.length_eq
  sends := h.sends
  waits_iff := h.waits_iff
  inv := h.inv.reset

theorem Tracks.elsewhere (h : Tracks i timeout s t) (e : Elsewhere (Logged S) i) :
    Tracks i timeout { s with overlap := s.overlap.elsewhere e } t where
  here := by
    rw [aggregate?_eq]
    exact (congrArg (·.bind LiveQuery.asAggregate?) (e.slot?_eq _)).trans ((aggregate?_eq ..).symm.trans h.here)
  timeout_eq := (e.timeout_eq _).trans h.timeout_eq
  announced_eq := h.announced_eq
  length_eq := h.length_eq
  sends := h.sends
  waits_iff := h.waits_iff
  inv := h.inv

/-- Between the moves of a session, every name was asked for since the last fetch of the whole. -/
structure Stands (i timeout : Nat) (queries : Dict QueryDescriptor) (s : AggregateSession S) (t : AggregateTraffic) :
    Prop extends Tracks i timeout s t where
  queries_eq : t.query.queries = queries
  declared : ∀ {k : Nat} {a : AggregateRequest}, t.requests[k]? = some a → a.name ∈ Dict.keys queries
  covers : ∀ name ∈ Dict.keys queries, t.Covers name

variable {queries : Dict QueryDescriptor}

/-- A session on an aggregate of which nothing is known yet. -/
theorem stands_initial {b : Binder (Logged S)} {entityId : Option String}
    (hb : b.aggregate? i = some (.ofQueries queries entityId)) :
    Stands i b.timeout queries { overlap := { binder := b } } { query := .ofQueries queries entityId } where
  here := hb
  timeout_eq := rfl
  announced_eq := rfl
  length_eq := rfl
  sends h := by simp at h
  waits_iff h := by simp at h
  inv := AggregateTraffic.inv_initial queries entityId
  queries_eq := rfl
  declared h := by simp at h
  covers _ _ := .inl rfl

theorem declared_concat {names : List String} {requests : List AggregateRequest} {new : AggregateRequest}
    (h : ∀ {k : Nat} {a : AggregateRequest}, requests[k]? = some a → a.name ∈ names) (hnew : new.name ∈ names)
    {k : Nat} {a : AggregateRequest} (hk : (requests ++ [new])[k]? = some a) : a.name ∈ names := by
  rcases getElem?_concat_cases hk with hk | ⟨-, rfl⟩
  · exact h hk
  · exact hnew

variable [DataSource S]

theorem Stands.refetch (h : Stands i timeout queries s t) (names : List String) :
    ∃ t', Stands i timeout queries (s.refetch i names) t' := by
  induction names generalizing s t with
  | nil => exact ⟨t, h⟩
  | cons name rest ih =>
    unfold AggregateSession.refetch
    rw [h.here]
    simp only [Option.bind_some]
    cases hname : Dict.get? t.query.queries name with
    | none => exact ih h
    | some descriptor =>
      obtain ⟨answer, hissues⟩ := AggregateRequest.issues_refetchName h.here hname
      obtain ⟨t', htracks, hlike, hrequests⟩ := h.toTracks.ask ⟨name, true, rest⟩ hissues nofun
      have hmem : name ∈ Dict.keys queries := h.queries_eq ▸ Dict.mem_keys_of_get? hname
      have hdeclared {k : Nat} {a : AggregateRequest} (hk : t'.requests[k]? = some a) : a.name ∈ Dict.keys queries :=
        declared_concat h.declared hmem (hrequests ▸ hk)
      have hstands : Stands i timeout queries _ t' := ⟨htracks, hlike.queries_eq.trans h.queries_eq, hdeclared,
        fun name hmem => (h.covers name hmem).grow hlike.issued_eq hrequests⟩
      -- The next name is asked for now if the answer for this one is there, and else when that arrives.
      simp only
      split
      · exact ⟨t', hstands⟩
      · exact ih hstands

/-- The requests of a fetch of the whole: each name is asked for once, and for the first time since it began. -/
theorem Tracks.parts (h : Tracks i timeout s t) {q : AggregateQuery} (hlike : t.query.Like q)
    {parts : List (String × QueryDescriptor)} (hnodup : (Dict.keys parts).Nodup)
    (hfirst : ∀ name ∈ Dict.keys parts, ∀ {k : Nat} {a : AggregateRequest}, t.requests[k]? = some a → a.name = name →
      a.whole < t.query.issued)
    (hparts : ∀ name ∈ Dict.keys parts, name ∈ Dict.keys queries)
    (hdeclared : ∀ {k : Nat} {a : AggregateRequest}, t.requests[k]? = some a → a.name ∈ Dict.keys queries) :
    ∃ t', Tracks i timeout
        (parts.foldl (fun s entry =>
          s.ask i { name := entry.1, alone := false } (fetchPart i q.issued q.entityId entry.1 entry.2)) s) t' ∧
      t'.query.Like q ∧
      (∀ {k : Nat} {a : AggregateRequest}, t'.requests[k]? = some a → a.name ∈ Dict.keys queries) ∧
      ∀ name, name ∈ Dict.keys parts ∨ t.Covers name → t'.Covers name := by
  induction parts generalizing s t with
  | nil =>
    refine ⟨t, h, hlike, hdeclared, ?_⟩
    intro name hname
    rcases hname with hnil | hcovers
    · cases hnil
    · exact hcovers
  | cons entry rest ih =>
    obtain ⟨name, descriptor⟩ := entry
    obtain ⟨hname, hnodup⟩ := List.nodup_cons.mp hnodup
    obtain ⟨answer, hissues⟩ := AggregateRequest.issues_fetchPart h.here name descriptor
    rw [hlike.issued_eq, hlike.entityId_eq] at hissues
    obtain ⟨t₁, htracks, hlike₁, hrequests⟩ := h.ask ⟨name, false, []⟩ hissues
      fun _ => hfirst name List.mem_cons_self
    -- The names that follow are other ones, so that their requests are still the first of this fetch.
    have hlater : ∀ other ∈ Dict.keys rest, ∀ {k : Nat} {a : AggregateRequest}, t₁.requests[k]? = some a →
        a.name = other → a.whole < t₁.query.issued := by
      intro other hother k a hk ha
      rw [hrequests] at hk
      rw [hlike₁.issued_eq]
      rcases getElem?_concat_cases hk with hk | ⟨-, rfl⟩
      · exact hfirst other (List.mem_cons_of_mem _ hother) hk ha
      · have hsame : name = other := ha
        exact absurd (hsame ▸ hother) hname
    have hdeclared₁ {k : Nat} {a : AggregateRequest} (hk : t₁.requests[k]? = some a) : a.name ∈ Dict.keys queries :=
      declared_concat hdeclared (hparts name List.mem_cons_self) (hrequests ▸ hk)
    obtain ⟨t₂, htracks₂, hlike₂, hdeclared₂, hcovers⟩ := ih htracks (hlike₁.trans hlike) hnodup hlater
      (fun other hother => hparts other (List.mem_cons_of_mem _ hother)) hdeclared₁
    refine ⟨t₂, htracks₂, hlike₂, hdeclared₂, fun other hother => hcovers other ?_⟩
    rcases hother with hother | hother
    · rcases List.mem_cons.mp hother with rfl | hother
      · -- The request that was just issued is the one that covers its name.
        have hlast : t₁.requests[t.requests.length]? = _ := hrequests ▸ List.getElem?_concat_length
        exact .inr (.inr ⟨_, _, hlast, rfl, hlike₁.issued_eq.symm⟩)
      · exact .inl hother
    · exact .inr (hother.grow hlike₁.issued_eq hrequests)

theorem Stands.fetch (h : Stands i timeout queries s t) (hnodup : (Dict.keys queries).Nodup) :
    ∃ t', Stands i timeout queries (s.fetch i) t' := by
  unfold AggregateSession.fetch
  rw [h.here]
  -- The reset has made every request that there is an old one.
  have hfirst : ∀ name ∈ Dict.keys t.query.queries, ∀ {k : Nat} {a : AggregateRequest},
      t.reset.requests[k]? = some a → a.name = name → a.whole < t.reset.query.issued :=
    fun _ _ _ _ hk _ => Nat.lt_succ_of_le (h.inv.whole_le hk)
  obtain ⟨t', htracks, hlike, hdeclared, hcovers⟩ := h.toTracks.reset.parts ⟨rfl, rfl, rfl⟩ (h.queries_eq ▸ hnodup)
    hfirst (fun name hname => h.queries_eq ▸ hname) h.declared
  have hqueries : t'.query.queries = queries := hlike.queries_eq.trans h.queries_eq
  exact ⟨t', htracks, hqueries, hdeclared, fun name hname => hcovers name (.inl (h.queries_eq ▸ hname))⟩

theorem Stands.arrive (h : Stands i timeout queries s t) (k : Nat) :
    ∃ t', Stands i timeout queries (s.arrive i k) t' := by
  unfold AggregateSession.arrive
  cases hf : s.overlap.begun[k]? with
  | none => exact ⟨t, h⟩
  | some f =>
    cases hwaits : f.rest.waits with
    | false => exact ⟨t, by simpa [hwaits] using h⟩
    | true =>
      have hlike := AggregateTraffic.like_settle t k
      have hstands : Stands i timeout queries (s.note i k (s.overlap.arrive k)) (t.settle k) :=
        ⟨h.toTracks.settle hf hwaits, hlike.queries_eq.trans h.queries_eq, fun hk =>
          h.declared (AggregateTraffic.requests_settle t k ▸ hk), fun name hname =>
          (h.covers name hname).grow hlike.issued_eq (by rw [AggregateTraffic.requests_settle, List.append_nil])⟩
      simpa [hwaits] using hstands.refetch f.label.next

theorem Stands.move (h : Stands i timeout queries s t) (hnodup : (Dict.keys queries).Nodup) (m : Move S i) :
    ∃ t', Stands i timeout queries (s.move m) t' := by
  cases m with
  | fetch => exact h.fetch hnodup
  | refetch name => exact h.refetch [name]
  | invalidate key => exact h.refetch _
  | arrive k => exact h.arrive k
  | elsewhere e => exact ⟨t, h.toTracks.elsewhere e, h.queries_eq, h.declared, h.covers⟩

theorem Stands.run (h : Stands i timeout queries s t) (hnodup : (Dict.keys queries).Nodup) (moves : List (Move S i)) :
    ∃ t', Stands i timeout queries (s.run moves) t' := by
  induction moves generalizing s t with
  | nil => exact ⟨t, h⟩
  | cons m rest ih =>
    obtain ⟨t', h'⟩ := h.move hnodup m
    exact ih h'

end AggregateSession

end RecordScreens
