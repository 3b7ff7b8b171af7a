import RecordScreens.Action.Dispatch
import RecordScreens.Proofs.Dialog.Lock
import RecordScreens.Proofs.Dialog.Reached
import RecordScreens.Proofs.Routine.Beside
import RecordScreens.Record.Dynamic
import RecordScreens.Source.Scripted

/-!
# What a click contains

Code of the host that gives up while an action is carried out makes the action fail, with
the message that it gave up with. What decides whether the action is offered is asked
before that, and when it gives up, so does the click. A click does not come back that asks
for a dialog on a bus that does not.
-/

namespace RecordScreens

namespace Dispatch

variable {S R : Type} [DataSource S] [Record R]

/-- Those whose code runs when an action is clicked. -/
inductive Party where
  | predicate
  | handler
  | navigator
  | subscriber
  deriving DecidableEq

/-- Code of a party gives up with `p` when an action is clicked for a record. -/
inductive Raises (a : ActionSpec R) (r : R) (e : Engine S) : Party → Panic → Prop where
  | predicate {p : Panic} (h : a.isVisible r = .error p) : Raises a r e .predicate p
  | handler {p : Panic} (hvisible : a.isVisible r = .ok true) (h : a.resolve r = .error p) : Raises a r e .handler p
  | navigator {p : Panic} {path : String} (hvisible : a.isVisible r = .ok true)
      (heffect : a.resolve r = .ok (.ok (.navigate path))) (h : e.navigator.accept path = .error p) :
      Raises a r e .navigator p
  | subscriber {p : Panic} {channel : String} {request : DialogRequest} {depth : Nat} {before later : List Subscriber}
      {s : Subscriber} {bus : DialogBus} (hvisible : a.isVisible r = .ok true)
      (heffect : a.resolve r = .ok (.ok (.openDialog channel request))) (hnesting : e.bus.nesting = depth + 1)
      (hon : e.bus.on channel = before ++ s :: later)
      (hbefore : DialogBus.deliver (DialogBus.publishWithin depth) request before (e.bus.keep (e.bus.on channel)) =
        (.ok (), bus))
      (h : (DialogBus.react (DialogBus.publishWithin depth) (s.receive request) bus).1 = .error (.panic p)) :
      Raises a r e .subscriber p

/-- A click asks for a dialog, and the publication of the request does not come back, not even with a panic. -/
structure Hangs (a : ActionSpec R) (r : R) (e : Engine S) (halt : Halt) : Prop where
  visible : a.isVisible r = .ok true
  ne_panic : ∀ p, halt ≠ .panic p
  publish : ∃ channel request, a.resolve r = .ok (.ok (.openDialog channel request)) ∧
    (e.bus.publish channel request).1 = .error halt

variable {a : ActionSpec R} {r : R} {e : Engine S} {p : Panic} {halt : Halt} {channel : String}
  {request : DialogRequest}

theorem dispatch_of_visible (h : a.isVisible r = .ok true) :
    (dispatch a r : Routine (Engine S) _) = click a r := by
  unfold dispatch
  rw [h]

theorem dispatch_of_hidden (h : a.isVisible r = .ok false) :
    (dispatch a r : Routine (Engine S) _) = .done (.ok .hidden) := by
  unfold dispatch
  rw [h]
  rfl

/-- How a click goes on after its effect. -/
def conclude (a : ActionSpec R) (r : R) :
    Except Halt (Except ActionError ActionOutcome) → Routine (Engine S) (Except Halt ActionOutcome)
  | .ok (.ok outcome) => .done (.ok outcome)
  | .ok (.error error) => fail a.id (Record.id r) error
  | .error halt => .done (.error halt)

theorem click_of_error {error : ActionError} (h : resolve a r = .error error) :
    (click a r : Routine (Engine S) _) = fail a.id (Record.id r) error := by
  unfold click
  rw [h]

theorem click_of_effect {effect : ActionEffect} (h : resolve a r = .ok effect) :
    (click a r : Routine (Engine S) _) = (apply effect).bind (conclude a r) := by
  unfold click
  rw [h]
  refine congrArg (Routine.bind _) (funext fun answer => ?_)
  rcases answer with halt | error | outcome <;> rfl

theorem resolve_of_panic (h : a.resolve r = .error p) : resolve a r = .error (.panicked p.message) := by
  unfold resolve
  rw [h]
  rfl

theorem resolve_eq_ok_iff {effect : ActionEffect} : resolve a r = .ok effect ↔ a.resolve r = .ok (.ok effect) := by
  unfold resolve
  rcases a.resolve r with p | error | effect' <;> simp [Panic.contain, Except.bind]

/-- The action failed with a panic, and that was reported once. -/
def Contains (a : ActionSpec R) (r : R) (e : Engine S) (p : Panic)
    (ran : Ran (Engine S) (Except Halt ActionOutcome)) : Prop :=
  ran.result = .ok (.failed (.panicked p.message)) ∧ ran.state.failures =
    e.failures.add { actionId := a.id, entityId := Record.id r, error := .panicked p.message }

variable {others : Nat → Engine S → Engine S} {time : Nat}

theorem contains_handler (h : a.resolve r = .error p) : Contains a r e p ((click a r).beside others time e) := by
  rw [click_of_error (resolve_of_panic h)]
  exact ⟨rfl, rfl⟩

/-- An effect that is one step of the host fails if that step gives up. -/
theorem contains_step {β : Type} {effect : ActionEffect} {step : Engine S → β × Engine S}
    {answer : β → Except Halt (Except ActionError ActionOutcome)} (heffect : a.resolve r = .ok (.ok effect))
    (happly : apply effect = (Routine.step step).bind fun b => .done (answer b))
    (hstep : answer (step e).1 = .ok (.error (.panicked p.message))) (hfailures : (step e).2.failures = e.failures) :
    Contains a r e p ((click a r).beside others time e) := by
  rw [click_of_effect (resolve_eq_ok_iff.mpr heffect), happly]
  simp only [Contains, Routine.step, Routine.bind, Routine.beside, hstep, conclude, fail, Routine.modify,
    Routine.bind_eq, Routine.pure_eq, hfailures, and_self]

theorem contains_navigator {path : String} (heffect : a.resolve r = .ok (.ok (.navigate path)))
    (h : e.navigator.accept path = .error p) : Contains a r e p ((click a r).beside others time e) := by
  have hnavigate : (e.navigator.navigate path).1 = .error p := by
    unfold Navigator.navigate
    rw [h]
  refine contains_step heffect rfl ?_ rfl
  simp only [hnavigate]
  rfl

theorem contains_subscriber (heffect : a.resolve r = .ok (.ok (.openDialog channel request)))
    (h : (e.bus.publish channel request).1 = .error (.panic p)) :
    Contains a r e p ((click a r).beside others time e) := by
  refine contains_step heffect rfl ?_ rfl
  simp only [h]
  rfl

/-- Everything but a request comes back. -/
theorem apply_ok_or_openDialog (effect : ActionEffect) (others : Nat → Engine S → Engine S) (time : Nat)
    (e : Engine S) : (∃ answer, ((apply effect).beside others time e).result = .ok answer) ∨
      ∃ channel request, effect = .openDialog channel request ∧ ((apply effect).beside others time e).result =
        (Halt.contain (e.bus.publish channel request).1).map (·.map (.dialogRequested channel)) := by
  cases effect with
  | navigate path => exact .inl ⟨_, rfl⟩
  | mutate key params invalidates => exact .inl ⟨_, congrArg Ran.result (Routine.beside_map ..)⟩
  | openDialog channel request => exact .inr ⟨channel, request, rfl, rfl⟩

omit [DataSource S] in
theorem conclude_ok (a : ActionSpec R) (r : R) (answer : Except ActionError ActionOutcome)
    (others : Nat → Engine S → Engine S) (time : Nat) (e : Engine S) :
    ∃ outcome, ((conclude a r (.ok answer)).beside others time e).result = .ok outcome := by
  rcases answer with error | outcome <;> exact ⟨_, rfl⟩

/-- A click has an outcome, unless it asks for a dialog and the bus does not come back. -/
theorem click_ok_or_hangs (hvisible : a.isVisible r = .ok true) (others : Nat → Engine S → Engine S) (time : Nat)
    (e : Engine S) : (∃ outcome, ((click a r).beside others time e).result = .ok outcome) ∨
      ∃ halt, Hangs a r e halt := by
  cases hresolve : resolve a r with
  | error error =>
    rw [click_of_error hresolve]
    exact .inl ⟨_, rfl⟩
  | ok effect =>
    rw [click_of_effect hresolve]
    obtain ⟨waits, time', hbind⟩ := Routine.beside_bind (apply effect) (conclude a r) others time e
    simp only [hbind]
    rcases apply_ok_or_openDialog effect others time e with ⟨answer, hanswer⟩ | ⟨channel, request, rfl, hanswer⟩
    · rw [hanswer]
      exact .inl (conclude_ok ..)
    · rw [hanswer]
      rcases hpublish : (e.bus.publish channel request).1 with (p | _ | _) | delivery
      · exact .inl (conclude_ok ..)
      · exact .inr ⟨.stuck, hvisible, nofun, channel, request, resolve_eq_ok_iff.mp hresolve, hpublish⟩
      · exact .inr ⟨.overflow, hvisible, nofun, channel, request, resolve_eq_ok_iff.mp hresolve, hpublish⟩
      · exact .inl (conclude_ok ..)

theorem result_of_hangs (h : Hangs a r e halt) : ((click a r).beside others time e).result = .error halt := by
  obtain ⟨channel, request, heffect, hpublish⟩ := h.publish
  rw [click_of_effect (resolve_eq_ok_iff.mpr heffect)]
  simp only [apply, Engine.onBus, Routine.step, Routine.bind_eq, Routine.bind, Routine.beside, Routine.pure_eq,
    hpublish]
  cases halt with
  | panic p => exact absurd rfl (h.ne_panic p)
  | stuck => rfl
  | overflow => rfl

/-- A click has an outcome, whoever else gives up, unless what decides whether the action is offered does, or the bus
does not come back. -/
theorem dispatch_contains (a : ActionSpec R) (r : R) (others : Nat → Engine S → Engine S) (time : Nat) (e : Engine S) :
    let ran := (dispatch a r).beside others time e
    ((∃ outcome, ran.result = .ok outcome) ↔
      (∀ p, ¬ Raises a r e .predicate p) ∧ ∀ halt, ¬ Hangs a r e halt) ∧
    (∀ p, Raises a r e .predicate p → ran.result = .error (.panic p) ∧ ran.steps = []) ∧
    (∀ halt, Hangs a r e halt → ran.result = .error halt) ∧
    (e.bus.Unowned → ¬ Hangs a r e .stuck) ∧
    ∀ party p, Raises a r e party p → party ≠ .predicate → (∀ halt, ¬ Hangs a r e halt) →
      ran.result = .ok (.failed (.panicked p.message)) ∧ ran.state.failures =
        e.failures.add { actionId := a.id, entityId := Record.id r, error := .panicked p.message } := by
  intro ran
  have hraised {p : Panic} (h : a.isVisible r = .error p) : ran.result = .error (.panic p) ∧ ran.steps = [] := by
    have hdispatch : (dispatch a r : Routine (Engine S) _) = .done (.error (.panic p)) := by
      unfold dispatch
      rw [h]
      rfl
    simp only [ran, hdispatch, Routine.beside, and_self]
  have hclick (h : a.isVisible r = .ok true) : ran = (click a r).beside others time e := by
    simp only [ran, dispatch_of_visible h]
  have hhangs {halt : Halt} (h : Hangs a r e halt) : ran.result = .error halt := by
    rw [hclick h.visible]
    exact result_of_hangs h
  refine ⟨⟨?_, ?_⟩, ?_, fun _ => hhangs, ?_, ?_⟩
  · rintro ⟨outcome, houtcome⟩
    constructor
    · rintro p ⟨h⟩
      rw [(hraised h).1] at houtcome
      cases houtcome
    · intro halt hhalt
      rw [hhangs hhalt] at houtcome
      cases houtcome
  · rintro ⟨hnone, hback⟩
    cases hvisible : a.isVisible r with
    | error p => exact absurd (.predicate hvisible) (hnone p)
    | ok visible =>
      cases visible with
      | true =>
        rw [hclick hvisible]
        refine (click_ok_or_hangs hvisible others time e).resolve_right ?_
        rintro ⟨halt, h⟩
        exact hback halt h
      | false => exact ⟨.hidden, by simp only [ran, dispatch_of_hidden hvisible, Routine.beside]⟩
  · rintro p ⟨h⟩
    exact hraised h
  · intro hunowned h
    obtain ⟨channel, request, -, hpublish⟩ := h.publish
    exact (DialogBus.free_publish channel request e.bus hunowned).not_stuck hpublish
  · intro party p h hparty hback
    have hcontained : a.isVisible r = .ok true ∧ Contains a r e p ((click a r).beside others time e) := by
      cases h with
      | predicate => exact absurd rfl hparty
      | handler hvisible h => exact ⟨hvisible, contains_handler h⟩
      | navigator hvisible heffect h => exact ⟨hvisible, contains_navigator heffect h⟩
      | subscriber hvisible heffect hnesting hon hbefore h =>
        refine ⟨hvisible, contains_subscriber heffect ?_⟩
        refine (DialogBus.publish_of_givesUp hnesting hon ⟨_, hbefore, h⟩).resolve_right fun hstuck => ?_
        refine hback .stuck ⟨hvisible, ?_, _, _, heffect, hstuck⟩
        rintro p ⟨⟩
    rw [hclick hcontained.1]
    exact hcontained.2

/-- A host whose navigation gives up, and so does the second one who is subscribed. -/
def brittle : Engine Scripted where
  binder := { source := {} }
  bus := (({} : DialogBus).subscribe (.named "log") "c" fun _ => .note (.string "asked") .finish).subscribe
    (.named "dialogs") "c" fun _ => .panic ⟨some "subscriber exploded"⟩
  navigator := { accept := fun _ => .error ⟨some "router exploded"⟩ }

def candidateRecord : JsonRecord := ⟨[("id", .string "c1")]⟩

def crash : ActionSpec JsonRecord := { id := "crash", label := "Crash", target := .custom fun _ => .error ⟨none⟩ }

def view : ActionSpec JsonRecord := { id := "view", label := "View", target := .navigate "/c" }

def submit : ActionSpec JsonRecord := { id := "submit", label := "Submit", target := .openDialog "c" "submit" }

def clicked (a : ActionSpec JsonRecord) : Ran (Engine Scripted) (Except Halt ActionOutcome) :=
  (dispatch a candidateRecord).beside (fun _ => id) 0 brittle

/-- The handler, the navigation and a subscriber give up, each in a click of its own. -/
theorem dispatch_contains_brittle :
    (clicked crash).result = .ok (.failed (.panicked "unknown panic")) ∧
      (clicked view).result = .ok (.failed (.panicked "router exploded")) ∧
      (clicked submit).result = .ok (.failed (.panicked "subscriber exploded")) := by
  have hcrash : Raises crash candidateRecord brittle .handler ⟨none⟩ := .handler rfl rfl
  have hview : Raises view candidateRecord brittle .navigator ⟨some "router exploded"⟩ := .navigator rfl rfl rfl
  have hnesting : brittle.bus.nesting = 999 + 1 := rfl
  have hon : brittle.bus.on "c" = [_] ++ _ :: [] := rfl
  have hsubmit : Raises submit candidateRecord brittle .subscriber ⟨some "subscriber exploded"⟩ :=
    .subscriber rfl rfl hnesting hon rfl rfl
  obtain ⟨⟨hcrashes, -⟩, -, -, -, hcontained⟩ := dispatch_contains crash candidateRecord (fun _ => id) 0 brittle
  obtain ⟨⟨hviews, -⟩, -, -, -, hcontained'⟩ := dispatch_contains view candidateRecord (fun _ => id) 0 brittle
  obtain ⟨⟨hsubmits, -⟩, -, -, -, hcontained''⟩ := dispatch_contains submit candidateRecord (fun _ => id) 0 brittle
  exact ⟨(hcontained _ _ hcrash nofun (hcrashes ⟨_, rfl⟩).2).1, (hcontained' _ _ hview nofun (hviews ⟨_, rfl⟩).2).1,
    (hcontained'' _ _ hsubmit nofun (hsubmits ⟨_, rfl⟩).2).1⟩

def shy : ActionSpec JsonRecord :=
  { id := "shy", label := "Shy", target := .navigate "/c", visible := some fun _ => .error ⟨some "boom"⟩ }

/-- What decides whether the action is offered gives up, and the click with it. -/
theorem dispatch_uncontained :
    (clicked shy).result = .error (.panic ⟨some "boom"⟩) ∧ ¬ ∃ outcome, (clicked shy).result = .ok outcome :=
  ⟨rfl, nofun⟩

end Dispatch

end RecordScreens
