import RecordScreens.Detail.Screen
import RecordScreens.Proofs.Failure.Checks
import RecordScreens.Proofs.Query.AggregateFetch
import RecordScreens.Proofs.Record.Reading

/-!
# Loading a detail screen

A screen fetches its record and what is related to it at once. The two fetches share a
source and nothing else: each has a query of its own, and takes in its own replies. So
what the screen shows of the record is settled by the reply to the query for the record,
whatever the related queries come to and in whatever order.
-/

namespace RecordScreens

open Routine

/-! ## Outcomes of a query for a record -/

/-- The record that is read from an answer. -/
def Record.read (R : Type) [Record R] (key : String) (answer : Json) : Except QueryError R :=
  match decode answer with
  | some r => .ok r
  | none => .error (.decode key .unfitting)

section

variable {R : Type} [Record R]

theorem RecordQuery.read_eq {q : RecordQuery} (hform : q.fullForm? = Record.fullForm? R)
    (answer : Except QueryError Json) :
    q.read answer = (answer.bind (Record.read R q.key)).map Record.encode := by
  cases answer with
  | error e => rfl
  | ok v =>
    simp only [RecordQuery.read, Except.bind, Record.ofAnswer, Record.read, hform, Record.fullForm?]
    cases (Record.decode v : Option R) <;> rfl

theorem FetchOutcome.ofResult_map {α β : Type} (f : α → β) (result : Except QueryError α) :
    ofResult (result.map f) = ofResult result := by
  cases result <;> rfl

theorem FetchOutcome.ofResult_eq_failed {α : Type} {result : Except QueryError α} {error : QueryError} :
    ofResult result = .failed error ↔ result = .error error := by
  cases result <;> simp [ofResult]

/-- A record that was read is read again from its full form. -/
theorem QueryState.bindData_read [LawfulRecord R] (key : String) (answer : Except QueryError Json) :
    (ofResult ((answer.bind (Record.read R key)).map Record.encode)).bindData Record.decode =
      ofResult (answer.bind (Record.read R key)) := by
  cases answer with
  | error e => rfl
  | ok v =>
    simp only [Except.bind, Record.read]
    cases hr : (Record.decode v : Option R) with
    | none => rfl
    | some r => simp only [Except.map, ofResult, bindData, LawfulRecord.decode_encode hr]

end

/-! ## Views -/

/-- All that a screen shows of its record. -/
structure DetailView (R : Type) where
  record : QueryState R
  header : Option DetailHeader
  journey : Option (List JourneyItem × Nat)
  quickActions : Except Panic (List ActionButton)
  menu : Except Panic MenuView

section

variable {S R : Type} [Record R]

def DetailScreen.view (s : DetailScreen R) (e : Engine S) : DetailView R where
  record := s.record e
  header := s.header e
  journey := s.journey e
  quickActions := s.quickActions e
  menu := s.menu e

/-- What is shown of a record that was asked for with this outcome. -/
def DetailConfig.viewOf (c : DetailConfig R) : Except QueryError R → DetailView R
  | .ok r => {
    record := .data r
    header := some {
      title := c.title r
      status := (Record.status r).map c.statusTable.resolve
      subtitle := c.subtitleFields.map (Cell.ofColumn r)
      metrics := c.metrics.map (Cell.ofMetric r) }
    journey := (Record.status r).map fun status =>
      (RecordScreens.journey c.journey status, journeyProgress c.journey status)
    quickActions := ActionButton.ofActions c.quickActions r
    menu := MenuView.ofMenu c.menu r }
  | .error e => { record := .error e, header := none, journey := none, quickActions := .ok [], menu := .ok [] }

/-- A screen shows nothing of its record but what is known of it. -/
theorem DetailScreen.view_eq {s : DetailScreen R} {e : Engine S} {outcome : Except QueryError R}
    (h : s.record e = .ofResult outcome) : s.view e = s.config.viewOf outcome := by
  unfold view header DetailScreen.journey quickActions menu
  rw [h]
  cases outcome with
  | error e => rfl
  | ok r =>
    simp only [QueryState.ofResult, QueryState.data?, DetailConfig.viewOf, Option.bind_eq_bind, Option.bind_some,
      Option.pure_def, Option.map_eq_bind, Function.comp_def]

end

theorem QueryDescriptor.bind_some (q : QueryDescriptor) (id : String) :
    q.bind (some id) =
      .object (q.params.map fun p => (p.1, if p.2 = .string "\x7bid\x7d" then .string id else p.2)) := by
  refine congrArg Json.object (List.map_congr_left fun p _ => congrArg (Prod.mk p.1) ?_)
  cases p.2 with
  | string s => by_cases hs : s = "\x7bid\x7d" <;> simp [bindValue, entityIdPlaceholder, hs]
  | _ => rfl

/-- The calls that the source of an engine took in a step. -/
def TimedStep.called {S : Type} (step : TimedStep (Engine (Logged S))) : List TakenCall := (step.map (·.binder)).asked

namespace DetailDraft

variable {R : Type} [Record R] {d : DetailDraft R} {config : DetailConfig R}

/-- A configuration has the related queries of its draft, of which no two have the same name. -/
theorem related_of_build (h : d.build = .ok config) :
    config.related = .ofQueries d.related ∧ (d.related.map (·.1)).Nodup := by
  unfold build at h
  obtain ⟨⟨⟩, -, h⟩ := bind_eq_ok.mp h
  obtain ⟨baseRoute, -, h⟩ := bind_eq_ok.mp h
  obtain ⟨entityQuery, -, h⟩ := bind_eq_ok.mp h
  obtain ⟨title, -, h⟩ := bind_eq_ok.mp h
  obtain ⟨first, -, h⟩ := bind_eq_ok.mp h
  obtain ⟨⟨⟩, -, h⟩ := bind_eq_ok.mp h
  obtain ⟨⟨⟩, -, h⟩ := bind_eq_ok.mp h
  obtain ⟨⟨⟩, hrelated, h⟩ := bind_eq_ok.mp h
  obtain ⟨⟨⟩, -, h⟩ := bind_eq_ok.mp h
  obtain ⟨⟨⟩, -, h⟩ := bind_eq_ok.mp h
  obtain ⟨defaultSection, -, h⟩ := bind_eq_ok.mp h
  cases h
  exact ⟨rfl, ensureUnique_eq_ok.mp hrelated⟩

end DetailDraft

namespace DetailScreen

variable {S R : Type} [Record R] {s : DetailScreen R}

/-! ## The queries of a screen -/

/-- The queries of a screen are in their places, whatever is known of them. -/
structure Ready (s : DetailScreen R) (b : Binder S) : Prop where
  entity : ∃ q, b.slot? s.entity = some (.record q) ∧ q.key = s.config.entityQuery ∧ q.id = s.entityId ∧
    q.fullForm? = Record.fullForm? R
  related : ∃ a, b.slot? s.related = some (.aggregate a) ∧ a.Declares s.config.related.queries ∧
    a.entityId = some s.entityId

/-- The queries of a screen stay as they are, and so does the time that a call may take. -/
structure Undisturbed (s : DetailScreen R) (b b' : Binder S) : Prop where
  entity : b'.slot? s.entity = b.slot? s.entity
  related : b'.slot? s.related = b.slot? s.related
  timeout : b'.timeout = b.timeout

theorem ready_start (config : DetailConfig R) (id : String) (e : Engine S) :
    (start config id e).1.Ready (start config id e).2.binder := by
  let entity : LiveQuery := .record (.ofRecord R config.entityQuery id)
  let related : LiveQuery := .aggregate (.ofQueries config.related.queries (some id))
  have hqueries : (start config id e).2.binder.queries = (e.binder.queries ++ [{ query := entity }]) ++
      [{ query := related }] := rfl
  have hentity : (start config id e).2.binder.slot? (start config id e).1.entity = some entity := by
    unfold Binder.slot?
    rw [hqueries]
    exact congrArg (Option.map _) (getElem?_concat_of_some List.getElem?_concat_length)
  have hrelated : (start config id e).2.binder.slot? (start config id e).1.related = some related := by
    unfold Binder.slot?
    rw [hqueries]
    exact congrArg (Option.map _) List.getElem?_concat_length
  exact ⟨⟨_, hentity, rfl, rfl, rfl⟩, ⟨_, hrelated, AggregateQuery.declares_ofQueries _ _, rfl⟩⟩

/-- While a screen fetches, others leave its queries alone. -/
def terms (s : DetailScreen R) : Terms (Binder S) where
  rely := s.Undisturbed
  guarantee _ _ := True
  rely_refl _ := ⟨rfl, rfl, rfl⟩
  rely_trans h h' := ⟨h'.entity.trans h.entity, h'.related.trans h.related, h'.timeout.trans h.timeout⟩

omit [Record R] in
theorem Undisturbed.eqOn {b b' : Binder S} (h : s.Undisturbed b b') {own : Set (Nat × Option String)}
    (hown : ∀ p ∈ own, p.1 = s.entity ∨ p.1 = s.related) : Set.EqOn b.part b'.part own := by
  intro p hp
  have hslot : b'.slot? p.1 = b.slot? p.1 := by
    rcases hown p hp with heq | heq
    · rw [heq, h.entity]
    · rw [heq, h.related]
  simp only [Binder.part, hslot, h.timeout]

/-! ## The two fetches -/

/-- The record and the related queries were asked for, each once, and each query knows what it came to itself. -/
def Loads (s : DetailScreen R) (timeout : Nat) : Post (Binder (Logged S)) FetchOutcome := fun found steps b =>
  s.Ready b ∧ ∃ (reply : Reply) (asked : List AskedName),
    let outcome := (reply.answer s.config.entityQuery timeout).bind (Record.read R s.config.entityQuery)
    found = .ofResult outcome ∧
    asked.map (fun n => (n.name, n.descriptor)) = s.config.related.queries ∧
    (steps.flatMap (·.asked)).Perm (⟨⟨.query, s.config.entityQuery, RecordQuery.params s.entityId⟩, reply⟩ ::
      asked.map fun n => ⟨n.call (some s.entityId), n.reply⟩) ∧
    (∃ q, b.slot? s.entity = some (.record q) ∧ q.state = .ofResult (outcome.map Record.encode)) ∧
    ∃ a, b.slot? s.related = some (.aggregate a) ∧ a.result = asked.map (·.entry timeout)

variable [DataSource S] {b : Binder (Logged S)} {time : Nat}

/-- What a load does to the queries. -/
def fetches (s : DetailScreen R) : Routine (Binder (Logged S)) (FetchOutcome × AggregateResult) :=
  Routine.par (Binder.fetchSingle s.entity) (Binder.fetchAggregate s.related)

omit [Record R] in
/-- The two fetches have no part of a query in common, so each settles as it does on its own. -/
theorem ensures_fetches {q : RecordQuery} {a : AggregateQuery} (hq : b.slot? s.entity = some (.record q))
    (ha : b.slot? s.related = some (.aggregate a)) (hsorted : Dict.Sorted a.queries) :
    (s.fetches (S := S)).Ensures s.terms
      (Post.both (Binder.Fetched q b.timeout s.entity) (Binder.SettlesAll s.related b.timeout time a)) time b := by
  have hne : s.entity ≠ s.related := by
    intro heq
    rw [heq] at hq
    cases ha.symm.trans hq
  have hfit : (Terms.owning (Binder.part (S := Logged S)) {(s.entity, none)}).Fit
      (.owning Binder.part {p | p.1 = s.related}) :=
    Terms.fit_owning (Set.singleton_subset_iff.mpr hne)
  have hpar := Ensures.par hfit (Binder.fetched_stable q b.timeout s.entity)
    (Binder.settlesAll_stable s.related b.timeout time a) (Binder.ensures_fetchSingle hq)
    fun b' hb' => Binder.settles_fetchAggregate ha hsorted hb'
  exact hpar.mono (fun b' b'' hb'' => ⟨hb''.eqOn (by simp), hb''.eqOn (by simp +contextual)⟩) (fun _ _ _ => trivial)
    fun _ _ _ => id

/-- The fetches load the screen: its queries are still in their places, and each knows what it came to itself. -/
theorem loads_fetches (h : s.Ready b) (hsorted : Dict.Sorted s.config.related.queries) :
    s.fetches.Ensures s.terms (fun found => s.Loads b.timeout found.1) time b := by
  obtain ⟨⟨q, hq, hkey, hid, hform⟩, a, ha, hdeclares, hentity⟩ := h
  have hqueries := hdeclares.queries_eq
  -- What the related queries are asked for and what they declare stays as it is, whichever of the two fetches goes on.
  have hdeclared : s.fetches.Preserves (Binder.Declares (S := Logged S) s.related s.config.related.queries) :=
    (Binder.declares_fetchSingle _).par (Binder.declares_fetchAggregate hsorted _)
  have hasks : s.fetches.Preserves (Binder.AsksAs (S := Logged S) s.related (.aggregate a)) :=
    (Binder.asksAs_fetchSingle _).par (Binder.asksAs_fetchAggregate _)
  have hfetches : s.fetches.Ensures _ _ time b := ensures_fetches hq ha (hqueries ▸ hsorted)
  refine ((hfetches.preserves hdeclared (fun _ _ hb' hd => hd.of_slot? hb'.related) ⟨a, ha, hdeclares⟩).preserves hasks
    (fun _ _ hb' hd => hd.of_slot? hb'.related) ⟨_, ha, .refl _⟩).weaken ?_
  rintro ⟨outcome, _⟩ steps b' ⟨⟨hboth, a', ha', hdeclares'⟩, _, ha'', hsame⟩
  obtain ⟨own, others, hperm, ⟨reply, hasked, houtcome, hpart⟩, asked, hsettled⟩ := hboth
  cases ha'.symm.trans ha''
  cases hsame with
  | aggregate _ hentity' =>
    have hread := q.read_eq hform (reply.answer q.key b.timeout)
    rw [hread, FetchOutcome.ofResult_map, hkey] at houtcome
    have hslot := Binder.slot?_of_part_record (congrArg Prod.snd hpart)
    refine ⟨⟨⟨_, hslot, hkey, hid, hform⟩, a', ha', hdeclares', hentity'.trans hentity⟩, reply, asked, houtcome, ?_, ?_,
      ⟨_, hslot, ?_⟩, a', ha', ?_⟩
    · exact hqueries ▸ hsettled.entries_eq
    · refine (hperm.flatMap_right _).trans ?_
      rw [List.flatMap_append, hasked, hkey, hid]
      exact (hentity ▸ hsettled.calls).cons _
    · show QueryState.ofResult (q.read (reply.answer q.key b.timeout)) = _
      rw [hread, hkey]
    · exact hsettled.result_eq (hqueries ▸ hsorted) ha' (hqueries ▸ hdeclares')

/-! ## Loads -/

omit [Record R] in
/-- Of what the two fetches come to, a load says whether the one of the record failed. -/
theorem load_eq (s : DetailScreen R) : (s.load : Routine (Engine (Logged S)) _) =
    (Engine.onBinder s.fetches).bind fun found =>
      .done (match found.1 with
        | .failed e => .error e
        | .applied | .stale => .ok ()) := by
  refine congrArg (Routine.bind _) (funext fun found => ?_)
  obtain ⟨outcome, _⟩ := found
  cases outcome <;> rfl

theorem ensures_load {e : Engine (Logged S)} (h : s.Ready e.binder) (hsorted : Dict.Sorted s.config.related.queries) :
    s.load.Ensures (s.terms.through (·.binder))
      (fun result steps e' => ∃ outcome, (∀ error, result = .error error ↔ outcome = .failed error) ∧
        s.Loads e.binder.timeout outcome (steps.map (·.map (·.binder))) e'.binder) time e := by
  rw [load_eq]
  have hzoom : (Engine.onBinder _).Ensures _ _ time e := (loads_fetches h hsorted).zoom fun _ _ => rfl
  refine Ensures.map (hzoom.weaken fun found steps e' hloads => ⟨found.1, fun error => ?_, hloads⟩)
  cases found.1 <;> simp

/-- A load that no other fetch of the screen's queries overlaps asks for the record by its id and for each related
query with its own parameters, in which the id takes the place of the placeholder, and for nothing else. It fails just
as the query for the record does. What is shown of the record is what is shown of the outcome of that query, and each
related name has its own outcome, in whatever order they settle. A screen can be loaded from its start on, and again
after each load. -/
theorem load_settles [LawfulRecord R] {d : DetailDraft R} {config : DetailConfig R} (hbuild : d.build = .ok config)
    (id : String) (e₀ : Engine (Logged S)) :
    let s := (start config id e₀).1
    s.Ready (start config id e₀).2.binder ∧
    ∀ (e : Engine (Logged S)) (others : Nat → Engine (Logged S) → Engine (Logged S)) (time : Nat), s.Ready e.binder →
      (∀ n e, s.Undisturbed e.binder (others n e).binder) →
      let ran := s.load.beside others time e
      let timeout := e.binder.timeout
      s.Ready ran.state.binder ∧ ∃ (reply : Reply) (asked : List AskedName),
        let outcome := (reply.answer config.entityQuery timeout).bind (Record.read R config.entityQuery)
        asked.map (fun n => (n.name, n.descriptor)) = config.related.queries ∧
        config.related.queries.Perm d.related ∧
        (ran.steps.flatMap (·.called)).Perm
          (⟨⟨.query, config.entityQuery, .object [("id", .string id)]⟩, reply⟩ ::
            asked.map fun n => ⟨⟨.query, n.descriptor.queryKey, .object (n.descriptor.params.map fun p =>
              (p.1, if p.2 = .string "\x7bid\x7d" then .string id else p.2))⟩, n.reply⟩) ∧
        (∀ error, ran.result = .error error ↔ outcome = .error error) ∧
        s.view ran.state = config.viewOf outcome ∧
        s.relatedResult ran.state = asked.map (·.entry timeout) := by
  intro s
  obtain ⟨hrelated, hnames⟩ := DetailDraft.related_of_build hbuild
  have hqueries : config.related.queries = Dict.ofList d.related := by
    rw [hrelated, DataSpec.ofQueries, DataSpec.queries]
  refine ⟨ready_start config id e₀, ?_⟩
  intro e others time hready hothers ran timeout
  have hsorted : Dict.Sorted config.related.queries := hqueries ▸ Dict.sorted_ofList _
  have hensures : s.load.Ensures _ _ time e := ensures_load hready hsorted
  obtain ⟨-, outcome, hresult, hloads⟩ := hensures.beside hothers
  obtain ⟨hready', reply, asked, houtcome, hentries, hcalls, ⟨q, hq, hstate⟩, a, ha, hknown⟩ := hloads
  refine ⟨hready', reply, asked, hentries, hqueries ▸ Dict.ofList_perm hnames, ?_, fun error => ?_, ?_, ?_⟩
  · rw [List.flatMap_map] at hcalls
    refine hcalls.trans (.of_eq (congrArg (List.cons _) (List.map_congr_left fun n _ => ?_)))
    rw [AskedName.call, QueryDescriptor.bind_some]
    rfl
  · rw [hresult error, houtcome]
    exact FetchOutcome.ofResult_eq_failed
  · refine view_eq ?_
    unfold record
    rw [Binder.record?_of_slot? hq]
    simp only [hstate]
    exact QueryState.bindData_read ..
  · unfold relatedResult
    rw [Binder.aggregate?_of_slot? ha]
    exact hknown

/-- What is shown of a job: its applicants, its reviewers and a forecast. -/
def jobDraft : DetailDraft JsonRecord where
  entityType := "job"
  baseRoute := some "/jobs"
  entityQuery := some "job/get"
  title := some (DetailDraft.fieldTitle "title")
  sections := [{ id := "applicants", label := "Applicants", showCount := true }]
  related := [("reviewers", { queryKey := "reviewers" }), ("forecast", { queryKey := "forecast" }),
    ("applicants", {
      queryKey := "applicants/list"
      params := [("job", .string entityIdPlaceholder), ("open", .bool true)] })]

def jobConfig : DetailConfig JsonRecord where
  entityType := jobDraft.entityType
  baseRoute := "/jobs"
  channel := "job"
  entityQuery := "job/get"
  title := DetailDraft.fieldTitle "title"
  statusTable := {}
  breadcrumbs := []
  subtitleFields := []
  metrics := []
  sections := jobDraft.sections
  defaultSection := "applicants"
  journey := []
  quickActions := []
  menu := []
  related := .ofQueries jobDraft.related

/-- The job is there late, when the applicants are, the reviewers have failed and the forecast is not yet there. -/
def jobEngine : Engine (Logged Scripted) where
  binder := {
    source := { source := { script := [
      ("applicants/list", [{ delay := some 20, result := some (.ok (.array [])) }]),
      ("forecast", [{ delay := some 90 }]),
      ("job/get", [{
        delay := some 40
        result := some (.ok (.object [("id", .string "J7"), ("title", .string "Welder")])) }]),
      ("reviewers", [{ result := some (.error "down") }])] } }
    timeout := 60 }

def job : DetailScreen JsonRecord × Engine (Logged Scripted) := start jobConfig "J7" jobEngine

/-- Another screen asks for the job as well. -/
def jobAsked (e : Engine (Logged Scripted)) : Engine (Logged Scripted) :=
  { e with binder := (e.binder.ask "job/get" (.object [("id", .string "J7")])).2 }

def jobLoaded : Ran (Engine (Logged Scripted)) (Except QueryError Unit) :=
  job.1.load.beside (fun _ => jobAsked) 0 job.2

/-- Two of the three related queries fail, and the job is shown all the same. -/
theorem load_settles_job :
    jobDraft.build = .ok jobConfig ∧ job.1.Ready job.2.binder ∧ job.1.Ready jobLoaded.state.binder ∧
      (∃ outcome, job.1.view jobLoaded.state = jobConfig.viewOf outcome ∧
        ∀ error, jobLoaded.result = .error error ↔ outcome = .error error) ∧
      jobLoaded.result.isOk = true ∧ (job.1.header jobLoaded.state).map (·.title) = some "Welder" ∧
      job.1.relatedResult jobLoaded.state = [("applicants", .data (.array [])),
        ("forecast", .error (.timeout "forecast" 60)), ("reviewers", .error (.source "reviewers" "down"))] := by
  have hbuild : jobDraft.build = .ok jobConfig := rfl
  obtain ⟨hready, hload⟩ := load_settles hbuild "J7" jobEngine
  obtain ⟨hready', reply, asked, -, -, -, hresult, hview, -⟩ := hload job.2 (fun _ => jobAsked) 0 hready
    fun _ _ => ⟨rfl, rfl, rfl⟩
  refine ⟨hbuild, hready, hready', ⟨_, hview, hresult⟩, ?_, ?_, ?_⟩
  · decide +kernel
  · decide +kernel
  · decide +kernel

end DetailScreen

end RecordScreens
