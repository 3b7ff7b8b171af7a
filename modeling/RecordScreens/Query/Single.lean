import RecordScreens.Query.State
import RecordScreens.Record.Basic

/-!
# Record queries

A query for one record by its id. As with lists, the last fetch wins.
-/

namespace RecordScreens

/-- A query for one record. -/
structure RecordQuery where
  key : String
  id : String
  /-- Reads an answer as a record, and gives the full form of that record. -/
  fullForm? : Json → Option Json
  /-- The number of the last fetch that was begun. -/
  issued : Nat := 0
  watch : Watch (QueryState Json) := { value := .pending }

/-- Reads an answer as a record. -/
def Record.ofAnswer (key : String) (fullForm? : Json → Option Json) (answer : Json) : Except QueryError Json :=
  match fullForm? answer with
  | some r => .ok r
  | none => .error (.decode key .unfitting)

namespace RecordQuery

/-- A query for a record of one kind. -/
def ofRecord (R : Type) [Record R] (key id : String) : RecordQuery := { key, id, fullForm? := Record.fullForm? R }

/-- What the query knows. -/
def state (q : RecordQuery) : QueryState Json := q.watch.value

/-- The parameters of every fetch. -/
def params (id : String) : Json := Json.ofMembers [("id", .string id)]

/-- Begins a fetch, which takes the next number. -/
def begin (q : RecordQuery) : RecordQuery := { q with issued := q.issued + 1 }

/-- Takes in the answer to the fetch with a number. -/
def settle (fetch : Nat) (result : Except QueryError Json) (q : RecordQuery) : FetchOutcome × RecordQuery :=
  if q.issued = fetch then (.ofResult result, { q with watch := q.watch.send (.ofResult result) })
  else (.stale, q)

/-- The answer to a fetch as a record. -/
def read (q : RecordQuery) (answer : Except QueryError Json) : Except QueryError Json :=
  answer.bind (Record.ofAnswer q.key q.fullForm?)

end RecordQuery

end RecordScreens
