import RecordScreens.Action.Spec
import RecordScreens.Dialog.Bus
import RecordScreens.Query.Binder

/-!
# Dispatch

What the click of an action does: nothing for a hidden action, and else exactly one
effect. Code of the host that gives up while an action is carried out makes the action
fail, and every failure is reported once. A click that does not come back from the bus has
no outcome.
-/

namespace RecordScreens

/-! ## Navigation -/

/-- The navigation of the host, and the paths that it went to. -/
structure Navigator where
  /-- Whether the host gives up on a path. -/
  accept : String → Except Panic Unit := fun _ => .ok ()
  visited : List String := []

/-- Goes to a path. -/
def Navigator.navigate (path : String) (n : Navigator) : Except Panic Unit × Navigator :=
  match n.accept path with
  | .ok () => (.ok (), { n with visited := n.visited ++ [path] })
  | .error p => (.error p, n)

/-! ## Failures -/

/-- An action that failed for an entity. -/
structure ActionFailure where
  actionId : String
  entityId : String
  error : ActionError
  deriving DecidableEq

/-- How many unread failures are kept. -/
def failureCapacity : Nat := 32

/-- The failures that were not read yet, of which only the newest are kept. -/
structure FailureFeed where
  unread : List ActionFailure := []
  /-- How many were lost. -/
  lost : Nat := 0
  deriving DecidableEq

namespace FailureFeed

/-- Adds a failure. -/
def add (failure : ActionFailure) (feed : FailureFeed) : FailureFeed :=
  if feed.unread.length < failureCapacity then { feed with unread := feed.unread ++ [failure] }
  else { unread := feed.unread.drop 1 ++ [failure], lost := feed.lost + 1 }

end FailureFeed

/-! ## Engine -/

/-- Everything that screens share. -/
structure Engine (S : Type) where
  binder : Binder S
  bus : DialogBus := {}
  navigator : Navigator := {}
  failures : FailureFeed := {}

namespace Engine

variable {S α : Type}

/-- Work on the queries. -/
def onBinder (r : Routine (Binder S) α) : Routine (Engine S) α :=
  Routine.zoom (·.binder) (fun binder e => { e with binder }) r

/-- A step on the bus. -/
def onBus (f : DialogBus → α × DialogBus) : Routine (Engine S) α :=
  Routine.step fun e => let (a, bus) := f e.bus; (a, { e with bus })

/-- A step of the navigation. -/
def onNavigator (f : Navigator → α × Navigator) : Routine (Engine S) α :=
  Routine.step fun e => let (a, navigator) := f e.navigator; (a, { e with navigator })

end Engine

/-! ## Dispatch -/

/-- What the click of an action did. -/
inductive ActionOutcome where
  | navigated (path : String)
  | mutated (key : String) (result : Json)
  | dialogRequested (channel : String) (delivery : Delivery)
  /-- The action is not offered for the record, and nothing was done. -/
  | hidden
  | failed (e : ActionError)
  deriving DecidableEq

namespace Dispatch

variable {S R : Type} [DataSource S]

/-- Carries out an effect. -/
def apply : ActionEffect → Routine (Engine S) (Except Halt (Except ActionError ActionOutcome))
  | .navigate path => do
    let answer ← Engine.onNavigator (Navigator.navigate path)
    return .ok ((Panic.contain answer).map fun _ => .navigated path)
  | .mutate key params invalidates => do
    let answer ← Engine.onBinder (Binder.mutate key params invalidates)
    return .ok ((answer.mapError .mutation).map (.mutated key))
  | .openDialog channel request => do
    let answer ← Engine.onBus (DialogBus.publish channel request)
    return (Halt.contain answer).map (·.map (.dialogRequested channel))

/-- Reports the failure of an action. -/
def fail (actionId entityId : String) (error : ActionError) : Routine (Engine S) (Except Halt ActionOutcome) := do
  Routine.modify fun e => { e with failures := e.failures.add { actionId, entityId, error } }
  return .ok (.failed error)

/-- What an action does for a record, with a panic of its handler taken for a failure. -/
def resolve [Record R] (a : ActionSpec R) (r : R) : Except ActionError ActionEffect :=
  (Panic.contain (a.resolve r)).bind id

/-- Clicks an action that is offered for a record. -/
def click [Record R] (a : ActionSpec R) (r : R) : Routine (Engine S) (Except Halt ActionOutcome) :=
  match resolve a r with
  | .error e => fail a.id (Record.id r) e
  | .ok effect => do
    match ← apply effect with
    | .ok (.ok outcome) => return .ok outcome
    | .ok (.error e) => fail a.id (Record.id r) e
    | .error h => return .error h

/-- Clicks an action for a record. What decides whether it is offered may itself give up. -/
def dispatch [Record R] (a : ActionSpec R) (r : R) : Routine (Engine S) (Except Halt ActionOutcome) :=
  match a.isVisible r with
  | .error p => return .error (.panic p)
  | .ok false => return .ok .hidden
  | .ok true => click a r

end Dispatch

end RecordScreens
