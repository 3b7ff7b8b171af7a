import RecordScreens.Failure.Query

/-!
# Action errors

How the click of an action can fail, and how code can fail to come back: code handed in by a
host may give up instead of answering, and so may the layout of a table. A panic can be
contained; it cannot be contained that code waits for a lock that it holds itself, or that it
calls itself too deep.
-/

namespace RecordScreens

/-- Code gave up, with a message or without one. -/
structure Panic where
  payload : Option String
  deriving DecidableEq, Repr

/-- The message of a panic. -/
def Panic.message (p : Panic) : String := p.payload.getD "unknown panic"

/-- Why code never came back with an answer. -/
inductive Halt where
  | panic (p : Panic)
  /-- It waits for a lock that it holds itself. -/
  | stuck
  /-- It called itself too deep. -/
  | overflow
  deriving DecidableEq, Repr

/-- Why an action failed. -/
inductive ActionError where
  /-- The handler of the action reported an error. -/
  | handler (text : String)
  /-- The handler, the navigator or a subscriber gave up. -/
  | panicked (text : String)
  /-- The screen has no action with this id. -/
  | unknownAction (id : String)
  /-- The record of the action was not loaded. -/
  | notLoaded (entityId : String)
  /-- The mutation of the action failed. -/
  | mutation (cause : QueryError)
  deriving DecidableEq, Repr

/-- The name of the kind of an action error. -/
def ActionError.kind : ActionError → String
  | .handler _ => "Handler"
  | .panicked _ => "Panicked"
  | .unknownAction _ => "UnknownAction"
  | .notLoaded _ => "NotLoaded"
  | .mutation _ => "Mutation"

/-- The message of an action error. -/
def ActionError.message : ActionError → String
  | .handler text => "Action handler failed: " ++ text
  | .panicked text => "Action panicked: " ++ text
  | .unknownAction id => "Unknown action: " ++ id
  | .notLoaded entityId => "Record not loaded: " ++ entityId
  | .mutation cause => cause.message

/-- Turns a panic into an error of the action. -/
def Panic.contain {α : Type} : Except Panic α → Except ActionError α
  | .ok a => .ok a
  | .error p => .error (.panicked p.message)

/-- Turns a panic into an error of the action. -/
def Halt.contain {α : Type} : Except Halt α → Except Halt (Except ActionError α)
  | .ok a => .ok (.ok a)
  | .error (.panic p) => .ok (.error (.panicked p.message))
  | .error h => .error h

end RecordScreens
