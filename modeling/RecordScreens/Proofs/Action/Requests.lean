import RecordScreens.Proofs.Action.Containment

/-!
# Whom a click asks

The click of an action that opens a dialog publishes one request. A panic of a subscriber is
contained around the publication, and not around each call. So the request gets no further
than to the first subscriber that gives up.
-/

namespace RecordScreens.Dispatch

open BusEvent

variable {S R : Type} [DataSource S] [Record R] {a : ActionSpec R} {r : R} {e : Engine S} {channel : String}
  {request : DialogRequest}

/-- What a click comes to that asked for a dialog: a panic is reported as the failure of the action, and a click whose
publication does not come back has no outcome. -/
def Answers (a : ActionSpec R) (r : R) (e : Engine S) (channel : String)
    (ran : Ran (Engine S) (Except Halt ActionOutcome)) : Except Halt Delivery → Prop
  | .ok delivery => ran.result = .ok (.dialogRequested channel delivery) ∧ ran.state.failures = e.failures
  | .error (.panic p) => ran.result = .ok (.failed (.panicked p.message)) ∧ ran.state.failures =
      e.failures.add { actionId := a.id, entityId := Record.id r, error := .panicked p.message }
  | .error halt => ran.result = .error halt ∧ ran.state.failures = e.failures

/-- All that such a click does is a publication and, if somebody gives up, the report of that. -/
theorem beside_dispatch_openDialog (hvisible : a.isVisible r = .ok true)
    (heffect : a.resolve r = .ok (.ok (.openDialog channel request))) (others : Nat → Engine S → Engine S)
    (time : Nat) :
    let ran := (dispatch a r).beside others time e
    ran.state.bus = (e.bus.publish channel request).2 ∧
      Answers a r e channel ran (e.bus.publish channel request).1 := by
  intro ran
  have hran : ran = _ := congrArg (·.beside others time e) (dispatch_of_visible hvisible)
  rw [click_of_effect (resolve_eq_ok_iff.mpr heffect)] at hran
  rw [hran]
  simp only [apply, Engine.onBus, Routine.step, Routine.bind_eq, Routine.bind, Routine.beside, Routine.pure_eq]
  rcases e.bus.publish channel request with ⟨(p | _ | _) | delivery, bus⟩ <;> exact ⟨rfl, rfl, rfl⟩

/-- Where everyone comes back, everyone who is subscribed is called, each once and in order. Otherwise those up to the
first one that does not come back are called, each once and in order, and nobody else. So all are called if and only if
nobody gives up but the last one. The panic of a subscriber is the outcome of the click, unless the publication gets
stuck after that, which it does not if no handler owns a subscription. -/
theorem dispatch_reaches_subscribers {depth : Nat} (hvisible : a.isVisible r = .ok true)
    (heffect : a.resolve r = .ok (.ok (.openDialog channel request))) (hnesting : e.bus.nesting = depth + 1)
    (others : Nat → Engine S → Engine S) (time : Nat) :
    let ran := (dispatch a r).beside others time e
    let answer := (e.bus.publish channel request).1
    let happened := (WatchedBus.published channel request e.bus).2
    let receivers := e.bus.on channel
    let GivesUp before s halt :=
      DialogBus.GivesUp (DialogBus.publishWithin depth) request before s halt (e.bus.keep receivers)
    ran.state.bus = happened.bus ∧ Answers a r e channel ran answer ∧ (e.bus.Unowned → answer ≠ .error .stuck) ∧
    ((∀ before s later halt, receivers = before ++ s :: later → ¬ GivesUp before s halt) →
      answer = .ok (.to receivers.length) ∧ ofPublication 0 happened.events =
          receivers.map (called 0 · request) ++ [returned 0 (.to receivers.length)] ∨
        answer = .error .stuck ∧ ofPublication 0 happened.events = receivers.map (called 0 · request)) ∧
    (∀ before s later halt, receivers = before ++ s :: later → GivesUp before s halt →
      (answer = .error halt ∨ answer = .error .stuck) ∧
        ofPublication 0 happened.events = (before ++ [s]).map (called 0 · request)) ∧
    (receivers.map (called 0 · request) <+: ofPublication 0 happened.events ↔
      ∀ before s later halt, receivers = before ++ s :: later → GivesUp before s halt → later = []) := by
  intro ran answer happened receivers GivesUp
  obtain ⟨hbus, houtcome⟩ := beside_dispatch_openDialog (e := e) hvisible heffect others time
  have hcalm (h : ∀ before s later halt, receivers = before ++ s :: later → ¬ GivesUp before s halt) :=
    WatchedBus.published_of_calm hnesting h
  have hgives {before s later halt} (hon : receivers = before ++ s :: later) (h : GivesUp before s halt) :=
    WatchedBus.published_of_givesUp hnesting hon h
  refine ⟨hbus.trans (congrArg Prod.snd WatchedBus.forget_published).symm, houtcome, fun hunowned => ?_, hcalm,
    fun before s later halt => hgives, fun hall before s later halt hon h => ?_, fun hlast => ?_⟩
  · exact (DialogBus.free_publish channel request e.bus hunowned).not_stuck
  · have hlength := hall.length_le
    rw [(hgives hon h).2, hon] at hlength
    simp only [List.length_map, List.length_append, List.length_cons, List.length_nil] at hlength
    exact List.eq_nil_of_length_eq_zero (by omega)
  · by_cases h : ∃ before s later halt, receivers = before ++ s :: later ∧ GivesUp before s halt
    · obtain ⟨before, s, later, halt, hon, hs⟩ := h
      obtain rfl := hlast before s later halt hon hs
      have hcalls := (hgives hon hs).2
      rw [← hon] at hcalls
      exact ⟨[], (List.append_nil _).trans hcalls.symm⟩
    · have hnobody : ∀ before s later halt, receivers = before ++ s :: later → ¬ GivesUp before s halt :=
        fun before s later halt hon hs => h ⟨before, s, later, halt, hon, hs⟩
      rcases hcalm hnobody with ⟨-, hcalls⟩ | ⟨-, hcalls⟩
      · exact ⟨_, hcalls.symm⟩
      · exact ⟨[], (List.append_nil _).trans hcalls.symm⟩

/-- One that gives up whatever it is called with. -/
def bomb : Subscriber := { id := .named "bomb", channel := "c", receive := fun _ => .panic ⟨some "boom"⟩ }

/-- One that notes with what it was called. -/
def recorder : Subscriber where
  id := .named "log"
  channel := "c"
  receive request := .note request.encode .finish
  serial := 1

/-- A host whose first subscriber gives up. -/
def explosive : Engine Scripted where
  binder := { source := {} }
  bus := { subscribers := [bomb, recorder] }

/-- The first subscriber gives up, so that it is the only one that is called. -/
theorem dispatch_reaches_subscribers_explosive :
    let request : DialogRequest := { dialogId := "submit", entityId := "c1" }
    let ran := (dispatch submit candidateRecord).beside (fun _ => id) 0 explosive
    submit.isVisible candidateRecord = .ok true ∧
      submit.resolve candidateRecord = .ok (.ok (.openDialog "c" request)) ∧ explosive.bus.nesting = 999 + 1 ∧
      ofPublication 0 (WatchedBus.published "c" request explosive.bus).2.events = [called 0 bomb request] ∧
      ran.result = .ok (.failed (.panicked "boom")) := by
  intro request ran
  have hgives : DialogBus.GivesUp (DialogBus.publishWithin 999) request [] bomb (.panic ⟨some "boom"⟩)
      (explosive.bus.keep (explosive.bus.on "c")) := ⟨_, rfl, rfl⟩
  have hvisible : submit.isVisible candidateRecord = .ok true := rfl
  have heffect : submit.resolve candidateRecord = .ok (.ok (.openDialog "c" request)) := rfl
  have hnesting : explosive.bus.nesting = 999 + 1 := rfl
  have hunowned : explosive.bus.Unowned :=
    List.forall_mem_cons.mpr ⟨⟨rfl, fun _ => trivial⟩, List.forall_mem_singleton.mpr ⟨rfl, fun _ => trivial⟩⟩
  obtain ⟨-, hanswers, hfree, -, hcalls, -⟩ := dispatch_reaches_subscribers hvisible heffect hnesting (fun _ => id) 0
  obtain ⟨hanswer, hcalled⟩ := hcalls [] bomb [recorder] (.panic ⟨some "boom"⟩) rfl hgives
  rw [hanswer.resolve_right (hfree hunowned)] at hanswers
  exact ⟨hvisible, heffect, hnesting, hcalled, hanswers.1⟩

/-- A panic is contained, and yet it costs the other subscriber its request. -/
theorem subscriber_after_panic_not_called :
    let request : DialogRequest := { dialogId := "submit", entityId := "c1" }
    recorder ∈ explosive.bus.on "c" ∧
      ((dispatch submit candidateRecord).run explosive).1 = .ok (.failed (.panicked "boom")) ∧
      ∀ n request', called n recorder request' ∉ (WatchedBus.published "c" request explosive.bus).2.events := by
  intro request
  have hevents : (WatchedBus.published "c" request explosive.bus).2.events =
    [begun "c" request, called 0 bomb request] := rfl
  refine ⟨by simp [explosive, DialogBus.on, bomb, recorder], rfl, fun n request' hmem => ?_⟩
  rw [hevents] at hmem
  simp [bomb, recorder] at hmem

end RecordScreens.Dispatch
