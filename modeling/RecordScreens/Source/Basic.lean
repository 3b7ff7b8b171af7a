import RecordScreens.Failure.Query
import RecordScreens.Json.Basic
import RecordScreens.Routine

/-!
# Data sources

What screens get their data from: a source answers queries and mutations by key. It
takes a call at once, and its answer may take a while.
-/

namespace RecordScreens

/-- The answer to a call, and how long it takes; without a delay it is there at once. -/
structure Reply where
  result : Except QueryError Json
  delay : Option Nat := none

/-- Something that answers queries and mutations. -/
class DataSource (S : Type) where
  query : (key : String) → (params : Json) → S → Reply × S
  mutate : (key : String) → (params : Json) → S → Reply × S

namespace Reply

variable {σ : Type}

/-- Waits for an answer, but no longer than `timeout`. -/
def await (r : Reply) (key : String) (timeout : Nat) : Routine σ (Except QueryError Json) :=
  match r.delay with
  | none => .done r.result
  | some delay =>
    if delay ≤ timeout then .sleep delay (.done r.result)
    else .sleep timeout (.done (.error (.timeout key timeout)))

/-- Waits for an answer however long it takes. -/
def awaitForever (r : Reply) : Routine σ (Except QueryError Json) :=
  match r.delay with
  | none => .done r.result
  | some delay => .sleep delay (.done r.result)

end Reply

end RecordScreens
