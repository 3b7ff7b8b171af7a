import RecordScreens.Failure.Query

/-!
# States of queries

What a query knows: nothing yet, data, or why there is none. States are watched, and
every new state is announced, even if it is like the one before.
-/

namespace RecordScreens

/-- What a query knows. -/
inductive QueryState (α : Type) where
  /-- Nothing has settled yet. -/
  | pending
  | data (a : α)
  | error (e : QueryError)
  deriving DecidableEq

namespace QueryState

variable {α β : Type}

def isPending : QueryState α → Bool
  | pending => true
  | _ => false

def isError : QueryState α → Bool
  | error _ => true
  | _ => false

def data? : QueryState α → Option α
  | data a => some a
  | _ => none

def error? : QueryState α → Option QueryError
  | error e => some e
  | _ => none

/-- The state that an answer leads to. -/
def ofResult : Except QueryError α → QueryState α
  | .ok a => data a
  | .error e => error e

/-- Changes the data. -/
def mapData (f : α → β) : QueryState α → QueryState β
  | pending => pending
  | data a => data (f a)
  | error e => error e

/-- Reads the data as something else; what cannot be read is not there. -/
def bindData (f : α → Option β) : QueryState α → QueryState β
  | pending => pending
  | data a => match f a with
    | some b => data b
    | none => pending
  | error e => error e

end QueryState

/-- What became of the answer to one fetch. -/
inductive FetchOutcome where
  /-- It is what the query knows now. -/
  | applied
  /-- It was an error, and that is what the query knows now. -/
  | failed (e : QueryError)
  /-- A newer fetch was begun in the meantime, and the answer was dropped. -/
  | stale
  deriving DecidableEq, Repr

/-- A fetch whose answer is kept. -/
def FetchOutcome.ofResult {α : Type} : Except QueryError α → FetchOutcome
  | .ok _ => applied
  | .error e => failed e

/-- A value with a count of its announcements. -/
structure Watch (α : Type) where
  value : α
  version : Nat := 0
  deriving DecidableEq

/-- Announces a new value. -/
def Watch.send {α : Type} (w : Watch α) (value : α) : Watch α := { value, version := w.version + 1 }

end RecordScreens
