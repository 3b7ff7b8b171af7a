import RecordScreens.Proofs.Action.Containment
import RecordScreens.Proofs.Dict
import RecordScreens.Proofs.Query.MutationOutcome

/-!
# What a click does

The click of an action that is offered comes to one effect for the record, or to none if
its handler fails. That effect is attempted in the first step. What follows only fetches
queries again, and a failure is reported last, once.
-/

namespace RecordScreens

/-! ## What is computed -/

namespace ActionSpec

variable {R : Type} [Record R]

/-- What an action comes to for a record. The id of the record is among the parameters of a mutation, whatever the
action says of a parameter of that name. -/
inductive Computes (a : ActionSpec R) (r : R) : Except ActionError ActionEffect → Prop where
  | navigate {template : String} (h : a.target = .navigate template) :
      Computes a r (.ok (.navigate (expandPath template r)))
  | mutate {key : String} {params params' : Json.Object} {invalidates : List String}
      (h : a.target = .mutate key params invalidates) (hid : Dict.get? params' "id" = some (.string (Record.id r)))
      (hothers : ∀ name, name ≠ "id" → Dict.get? params' name = Dict.get? params name) :
      Computes a r (.ok (.mutate key (.object params') invalidates))
  | openDialog {channel dialogId : String} (h : a.target = .openDialog channel dialogId) :
      Computes a r (.ok (.openDialog channel { dialogId, entityId := Record.id r }))
  | handler {handler : R → Except Panic (Except ActionError ActionEffect)} {effect : ActionEffect}
      (h : a.target = .custom handler) (hr : handler r = .ok (.ok effect)) : Computes a r (.ok effect)
  | error {handler : R → Except Panic (Except ActionError ActionEffect)} {error : ActionError}
      (h : a.target = .custom handler) (hr : handler r = .ok (.error error)) : Computes a r (.error error)
  | panic {handler : R → Except Panic (Except ActionError ActionEffect)} {p : Panic}
      (h : a.target = .custom handler) (hr : handler r = .error p) : Computes a r (.error (.panicked p.message))

theorem computes_resolve (a : ActionSpec R) (r : R) : Computes a r (Dispatch.resolve a r) := by
  unfold Dispatch.resolve resolve
  cases h : a.target with
  | navigate template => exact .navigate h
  | mutate key params invalidates =>
    refine .mutate h (Dict.get?_insert_self ..) fun name hname => ?_
    exact Dict.get?_insert_of_ne _ _ hname.symm
  | openDialog channel dialogId => exact .openDialog h
  | custom handler =>
    simp only
    cases hr : handler r with
    | error p => exact .panic h hr
    | ok answer =>
      cases answer with
      | error error => exact .error h hr
      | ok effect => exact .handler h hr

end ActionSpec

/-! ## What is attempted -/

namespace Engine

variable {S : Type}

/-- What the effects of actions and their failures show in. -/
def traces (e : Engine (Logged S)) : Navigator × List SourceCall × DialogBus × FailureFeed :=
  (e.navigator, e.binder.mutations, e.bus, e.failures)

/-- Reports a failure. -/
def report (failure : ActionFailure) (e : Engine S) : Engine S := { e with failures := e.failures.add failure }

/-- Work on the queries leaves the rest as it is. -/
theorem run_onBinder {α : Type} (r : Routine (Binder S) α) (e : Engine S) :
    (onBinder r).run e = ((r.run e.binder).1, { e with binder := (r.run e.binder).2 }) := by
  unfold onBinder
  induction r generalizing e with
  | done a => rfl
  | act change next ih => exact ih e.binder { e with binder := change e.binder }
  | sleep millis next ih => exact ih e

variable [DataSource S]

/-- Attempts an effect: what becomes of it, and what it does at once. -/
def attempt (e : Engine S) : ActionEffect → Except Halt (Except ActionError ActionOutcome) × Engine S
  | .navigate path =>
    let (answer, navigator) := e.navigator.navigate path
    (.ok ((Panic.contain answer).map fun _ => .navigated path), { e with navigator })
  | .mutate key params _ =>
    let (reply, binder) := e.binder.tell key params
    (.ok (((reply.answer key e.binder.timeout).mapError .mutation).map (.mutated key)), { e with binder })
  | .openDialog channel request =>
    let (answer, bus) := e.bus.publish channel request
    ((Halt.contain answer).map (·.map (.dialogRequested channel)), { e with bus })

/-- Only a failure comes to `failed`, and an attempt never comes to `hidden`. -/
theorem attempt_ok {e : Engine S} {effect : ActionEffect} {outcome : ActionOutcome}
    (h : (e.attempt effect).1 = .ok (.ok outcome)) : outcome ≠ .hidden ∧ ∀ error, outcome ≠ .failed error := by
  have hmapped {α ε : Type} {answer : Except ε α} {f : α → ActionOutcome} (h : answer.map f = .ok outcome) :
      ∃ a, outcome = f a := by
    cases answer with
    | error error => cases h
    | ok a => exact ⟨a, (Except.ok.inj h).symm⟩
  cases effect with
  | navigate path =>
    obtain ⟨_, rfl⟩ := hmapped (Except.ok.inj h)
    exact ⟨nofun, nofun⟩
  | mutate key params invalidates =>
    obtain ⟨_, rfl⟩ := hmapped (Except.ok.inj h)
    exact ⟨nofun, nofun⟩
  | openDialog channel request =>
    simp only [attempt] at h
    cases hanswer : Halt.contain (e.bus.publish channel request).1 with
    | error halt =>
      rw [hanswer] at h
      cases h
    | ok answer =>
      rw [hanswer] at h
      obtain ⟨_, rfl⟩ := hmapped (Except.ok.inj h)
      exact ⟨nofun, nofun⟩

/-- Only a request does not come back, and a panic does not keep it from coming back. -/
theorem attempt_error {e : Engine S} {effect : ActionEffect} {halt : Halt} (h : (e.attempt effect).1 = .error halt) :
    (∃ channel request, effect = .openDialog channel request) ∧ ∀ p, halt ≠ .panic p := by
  cases effect with
  | navigate path => cases h
  | mutate key params invalidates => cases h
  | openDialog channel request =>
    refine ⟨⟨channel, request, rfl⟩, ?_⟩
    rintro p rfl
    simp only [attempt] at h
    generalize (e.bus.publish channel request).1 = answer at h
    rcases answer with (p' | _ | _) | delivery <;> cases h

end Engine

/-! ## Failures that are sent -/

namespace FailureFeed

/-- Whatever was kept so far, a failure that is added shows, as the newest one. -/
theorem add_ne (failure : ActionFailure) (feed : FailureFeed) : feed.add failure ≠ feed := by
  unfold add
  intro h
  split at h
  · simpa using congrArg (·.unread.length) h
  · simpa using congrArg (·.lost) h

theorem getLast?_add (failure : ActionFailure) (feed : FailureFeed) :
    (feed.add failure).unread.getLast? = some failure := by
  unfold add
  split <;> simp

end FailureFeed

namespace TimedStep

variable {S : Type}

/-- The failures that a step added to the feed. -/
def reported (step : TimedStep (Engine S)) : List ActionFailure :=
  if step.after.failures = step.before.failures then [] else step.after.failures.unread.getLast?.toList

/-- A step without a navigation, a mutation, a request or a failure. -/
def Quiet (step : TimedStep (Engine (Logged S))) : Prop := step.after.traces = step.before.traces

theorem reported_report (time : Nat) (failure : ActionFailure) (e : Engine S) :
    reported ⟨time, e, e.report failure⟩ = [failure] := by
  have hchanged : (e.report failure).failures ≠ e.failures := FailureFeed.add_ne failure e.failures
  have hlast : (e.report failure).failures.unread.getLast? = some failure := FailureFeed.getLast?_add ..
  simp only [reported, hchanged, if_false, hlast, Option.toList_some]

theorem reported_of_failures {step : TimedStep (Engine S)} (h : step.after.failures = step.before.failures) :
    step.reported = [] := if_pos h

/-- A step without a navigation, a mutation or a request. -/
def Idle (step : TimedStep (Engine (Logged S))) : Prop :=
  step.after.navigator = step.before.navigator ∧ step.after.binder.mutations = step.before.binder.mutations ∧
    step.after.bus = step.before.bus

theorem idle_report (time : Nat) (failure : ActionFailure) (e : Engine (Logged S)) :
    Idle ⟨time, e, e.report failure⟩ := ⟨rfl, rfl, rfl⟩

theorem Quiet.idle {step : TimedStep (Engine (Logged S))} (h : step.Quiet) : step.Idle :=
  ⟨congrArg (·.1) h, congrArg (·.2.1) h, congrArg (·.2.2.1) h⟩

theorem Quiet.reported {step : TimedStep (Engine (Logged S))} (h : step.Quiet) : step.reported = [] :=
  reported_of_failures (congrArg (·.2.2.2) h)

end TimedStep

/-! ## The course of a click -/

namespace Dispatch

variable {S R : Type} [DataSource S] [Record R]

/-- How a click goes that came to an effect, or to none: the effect is attempted in the first step, and its outcome is
that of the click. A failure is reported in the last step. A click that asks for a dialog ends with its first step if
the bus does not come back. -/
inductive Course (a : ActionSpec R) (r : R) (time : Nat) (e : Engine (Logged S)) :
    Except ActionError ActionEffect → Ran (Engine (Logged S)) (Except Halt ActionOutcome) → Prop where
  | unresolved {error : ActionError} {e' : Engine (Logged S)} (he' : e' = e.report ⟨a.id, Record.id r, error⟩) :
      Course a r time e (.error error) ⟨.ok (.failed error), [⟨time, e, e'⟩], e'⟩
  | succeeded {effect : ActionEffect} {outcome : ActionOutcome} {quiet : List (TimedStep (Engine (Logged S)))}
      {e' : Engine (Logged S)} (hattempt : (e.attempt effect).1 = .ok (.ok outcome))
      (hquiet : ∀ step ∈ quiet, step.Quiet) :
      Course a r time e (.ok effect) ⟨.ok outcome, ⟨time, e, (e.attempt effect).2⟩ :: quiet, e'⟩
  | failed {effect : ActionEffect} {error : ActionError} {quiet : List (TimedStep (Engine (Logged S)))} {time' : Nat}
      {e' e'' : Engine (Logged S)} (hattempt : (e.attempt effect).1 = .ok (.error error))
      (hquiet : ∀ step ∈ quiet, step.Quiet) (he'' : e'' = e'.report ⟨a.id, Record.id r, error⟩) :
      Course a r time e (.ok effect)
        ⟨.ok (.failed error), ⟨time, e, (e.attempt effect).2⟩ :: (quiet ++ [⟨time', e', e''⟩]), e''⟩
  | halted {channel : String} {request : DialogRequest} {halt : Halt} {e' : Engine (Logged S)}
      (hattempt : e.attempt (.openDialog channel request) = (.error halt, e')) (hhalt : ∀ p, halt ≠ .panic p) :
      Course a r time e (.ok (.openDialog channel request)) ⟨.error halt, [⟨time, e, e'⟩], e'⟩

variable {a : ActionSpec R} {r : R} {e : Engine (Logged S)} {others : Nat → Engine (Logged S) → Engine (Logged S)}
  {time : Nat} {effect : ActionEffect}

/-- What comes after the attempt of a mutation sends no other one. -/
theorem keeps_await_concluded (reply : Reply) (key : String) (timeout : Nat) (invalidates : List String) :
    ((reply.await key timeout).bind (Binder.concluded invalidates) : Routine (Binder (Logged S)) _).Keeps
      Binder.mutations := by
  rw [Reply.await_eq]
  cases reply.wait? timeout with
  | none => exact Binder.keeps_concluded invalidates _
  | some millis => exact Binder.keeps_concluded invalidates _

theorem ends_await_concluded (reply : Reply) (key : String) (timeout : Nat) (invalidates : List String) :
    ((reply.await key timeout).bind (Binder.concluded invalidates) : Routine (Binder (Logged S)) _).Ends
      (· = reply.answer key timeout) := by
  rw [Reply.await_eq]
  cases reply.wait? timeout with
  | none => exact Binder.ends_concluded invalidates _
  | some millis => exact Binder.ends_concluded invalidates _

/-- The first step of an effect is the attempt, which it comes to whatever else happens. It is the only one if the
attempt does not come back. -/
theorem beside_apply (effect : ActionEffect) (others : Nat → Engine (Logged S) → Engine (Logged S)) (time : Nat)
    (e : Engine (Logged S)) : ∃ quiet e',
    (apply effect).beside others time e =
      ⟨(e.attempt effect).1, ⟨time, e, (e.attempt effect).2⟩ :: quiet, e'⟩ ∧ (∀ step ∈ quiet, step.Quiet) ∧
        ∀ halt, (e.attempt effect).1 = .error halt → quiet = [] ∧ e' = (e.attempt effect).2 := by
  cases effect with
  | navigate path => exact ⟨[], _, rfl, nofun, fun _ _ => ⟨rfl, rfl⟩⟩
  | openDialog channel request => exact ⟨[], _, rfl, nofun, fun _ _ => ⟨rfl, rfl⟩⟩
  | mutate key params invalidates =>
    let reply := (e.binder.tell key params).1
    let told := (e.attempt (.mutate key params invalidates)).2
    let rest : Routine (Engine (Logged S)) (Except QueryError Json) :=
      Engine.onBinder ((reply.await key e.binder.timeout).bind (Binder.concluded invalidates))
    let ran := rest.beside others time told
    have hmutate : (Engine.onBinder (Binder.mutate key params invalidates)).beside others time e =
        { ran with steps := ⟨time, e, told⟩ :: ⟨time, told, told⟩ :: ran.steps } := by
      rw [Binder.mutate_eq]
      rfl
    have hresult : ran.result = reply.answer key e.binder.timeout := (ends_await_concluded ..).zoom.result ..
    have hquiet : rest.Keeps Engine.traces := by
      refine (keeps_await_concluded ..).zoom fun e binder (hbinder : _ = e.binder.mutations) => ?_
      simp only [Engine.traces, hbinder]
    refine ⟨⟨time, told, told⟩ :: ran.steps, ran.state, ?_, List.forall_mem_cons.mpr ⟨rfl, ?_⟩, fun _ h => by cases h⟩
    · refine (Routine.beside_map ..).trans ?_
      rw [hmutate, hresult]
      rfl
    · exact hquiet.beside others time told

theorem course_click (a : ActionSpec R) (r : R) (others : Nat → Engine (Logged S) → Engine (Logged S)) (time : Nat)
    (e : Engine (Logged S)) : Course a r time e (resolve a r) ((click a r).beside others time e) := by
  cases hresolve : resolve a r with
  | error error =>
    rw [click_of_error hresolve]
    exact .unresolved rfl
  | ok effect =>
    obtain ⟨quiet, e', happly, hquiet, halted⟩ := beside_apply effect others time e
    obtain ⟨waits, time', hbind⟩ := Routine.beside_bind (apply effect) (conclude a r) others time e
    rw [click_of_effect hresolve, hbind, happly]
    rcases hattempt : (e.attempt effect).1 with halt | error | outcome
    · obtain ⟨⟨channel, request, rfl⟩, hhalt⟩ := Engine.attempt_error hattempt
      obtain ⟨rfl, rfl⟩ := halted halt hattempt
      exact .halted (Prod.ext hattempt rfl) hhalt
    · exact .failed hattempt hquiet rfl
    · simp only [conclude, Routine.beside, List.append_nil]
      exact .succeeded hattempt hquiet

/-- Nothing is performed after the attempt. -/
theorem Course.idle {resolved : Except ActionError ActionEffect}
    {ran : Ran (Engine (Logged S)) (Except Halt ActionOutcome)} (h : Course a r time e resolved ran) :
    ∀ step ∈ ran.steps.tail, step.Idle := by
  cases h with
  | unresolved he' => exact nofun
  | succeeded hattempt hquiet => exact fun step hstep => (hquiet step hstep).idle
  | failed hattempt hquiet he'' =>
    intro step hstep
    rcases List.mem_append.mp hstep with hstep | hstep
    · exact (hquiet step hstep).idle
    · cases List.mem_singleton.mp hstep
      rw [he'']
      exact TimedStep.idle_report ..
  | halted hattempt hhalt => exact nofun

/-- A click that fails is reported, once, and no other click is. -/
theorem Course.reported {resolved : Except ActionError ActionEffect}
    {ran : Ran (Engine (Logged S)) (Except Halt ActionOutcome)} (h : Course a r time e resolved ran) :
    ran.steps.flatMap (·.reported) =
      match ran.result with
      | .ok (.failed error) => [⟨a.id, Record.id r, error⟩]
      | _ => [] := by
  have hattempt (effect : ActionEffect) : TimedStep.reported ⟨time, e, (e.attempt effect).2⟩ = [] := by
    apply TimedStep.reported_of_failures
    cases effect <;> rfl
  have hnone {quiet : List (TimedStep (Engine (Logged S)))} (hquiet : ∀ step ∈ quiet, step.Quiet) :
      quiet.flatMap (·.reported) = [] :=
    List.flatMap_eq_nil_iff.mpr fun step hstep => (hquiet step hstep).reported
  cases h with
  | unresolved he' =>
    rw [he', List.flatMap_singleton]
    exact TimedStep.reported_report ..
  | succeeded hok hquiet =>
    rw [List.flatMap_cons, hattempt, hnone hquiet]
    split
    · rename_i hfailed
      exact absurd (Except.ok.inj hfailed) ((Engine.attempt_ok hok).2 _)
    · rfl
  | failed herror hquiet he'' =>
    rw [List.flatMap_cons, hattempt, List.flatMap_append, hnone hquiet, he'', List.flatMap_singleton]
    exact TimedStep.reported_report ..
  | @halted channel request halt e' hhalted hhalt =>
    have hnothing := hattempt (.openDialog channel request)
    rw [hhalted] at hnothing
    rw [List.flatMap_singleton]
    exact hnothing

/-- One click of an action, one effect, one failure. A hidden action does nothing. Any other comes to an effect for
the record or to none, and the click goes as that says, with at most one navigation, mutation or request, in its first
step. It fails with an error if and only if just that failure is sent. -/
theorem dispatch_once (a : ActionSpec R) (r : R) {visible : Bool} (hvisible : a.isVisible r = .ok visible)
    (others : Nat → Engine (Logged S) → Engine (Logged S)) (time : Nat) (e : Engine (Logged S)) :
    let ran := (dispatch a r).beside others time e
    let sent := ran.steps.flatMap (·.reported)
    (visible = false → ran = ⟨.ok .hidden, [], e⟩) ∧
    (visible = true → ∃ resolved, a.Computes r resolved ∧ Course a r time e resolved ran) ∧
    (∀ step ∈ ran.steps.tail, step.Idle) ∧
    (∀ error, ran.result = .ok (.failed error) ↔ sent = [⟨a.id, Record.id r, error⟩]) ∧
    ((∀ error, ran.result ≠ .ok (.failed error)) → sent = []) := by
  intro ran sent
  cases visible with
  | false =>
    have hran : ran = ⟨.ok .hidden, [], e⟩ := by
      simp only [ran, dispatch_of_hidden hvisible, Routine.beside]
    have hsent : sent = [] := by
      simp only [sent, hran, List.flatMap_nil]
    refine ⟨fun _ => hran, fun h => absurd h Bool.false_ne_true, ?_, ?_, fun _ => hsent⟩
    · rw [hran]
      exact List.forall_mem_nil _
    · intro error
      rw [hran, hsent]
      simp
  | true =>
    have hcourse : Course a r time e (resolve a r) ran := by
      simp only [ran, dispatch_of_visible hvisible]
      exact course_click a r others time e
    have hsent : sent = match ran.result with
      | .ok (.failed error) => [⟨a.id, Record.id r, error⟩]
      | _ => [] := hcourse.reported
    refine ⟨fun h => absurd h.symm Bool.false_ne_true, fun _ => ⟨_, a.computes_resolve r, hcourse⟩, hcourse.idle, ?_,
      ?_⟩
    · intro error
      rw [hsent]
      rcases ran.result with halt | outcome
      · simp
      · cases outcome <;> simp
    · intro hnone
      rw [hsent]
      split
      · rename_i error herror
        exact absurd herror (hnone error)
      · rfl

/-- A source that fails to save after a while, and a host for dialogs. -/
def savingFails : Engine (Logged Scripted) where
  binder := { source := { source := {
    script := [("save", [{ delay := some 5, result := some (.error "down") }])] } } }
  bus := (DialogBus.attach "c" {}).2

/-- An action with a parameter that the id of the record takes the place of. -/
def save : ActionSpec JsonRecord :=
  { id := "save", label := "Save"
    target := .mutate "save" [("id", .string "other"), ("note", .string "new")] ["deals"] }

/-- The candidate is sent to be saved, which fails, and that is sent once. Then a dialog is asked for, which the host
shows, and nothing more is sent. -/
theorem dispatch_once_save_submit :
    let saved := (dispatch save candidateRecord).beside (fun _ => id) 0 savingFails
    let asked := (dispatch submit candidateRecord).beside (fun _ => id) 5 saved.state
    let failure : ActionError := .mutation (.source "save" "down")
    (save.isVisible candidateRecord = .ok true ∧ saved.result = .ok (.failed failure) ∧
      saved.steps.flatMap (·.reported) = [⟨"save", "c1", failure⟩] ∧
      saved.state.binder.mutations = [⟨.mutate, "save", .object [("id", .string "c1"), ("note", .string "new")]⟩]) ∧
    submit.isVisible candidateRecord = .ok true ∧ asked.result = .ok (.dialogRequested "c" (.delivered 1)) ∧
      asked.steps.flatMap (·.reported) = [] ∧
      asked.state.bus.current 0 = some { dialogId := "submit", entityId := "c1" } ∧
      asked.state.binder.mutations = saved.state.binder.mutations := by
  intro saved asked failure
  refine ⟨?_, ?_⟩
  · have hvisible : save.isVisible candidateRecord = .ok true := rfl
    have hresult : saved.result = .ok (.failed failure) := rfl
    obtain ⟨-, -, -, hfailed, -⟩ := dispatch_once save candidateRecord hvisible (fun _ => id) 0 savingFails
    exact ⟨hvisible, hresult, (hfailed failure).mp hresult, rfl⟩
  · have hvisible : submit.isVisible candidateRecord = .ok true := rfl
    have hresult : asked.result = .ok (.dialogRequested "c" (.delivered 1)) := rfl
    obtain ⟨-, -, -, -, hnone⟩ := dispatch_once submit candidateRecord hvisible (fun _ => id) 5 saved.state
    refine ⟨hvisible, hresult, hnone fun error herror => ?_, rfl, rfl⟩
    cases hresult.symm.trans herror

end Dispatch

end RecordScreens
