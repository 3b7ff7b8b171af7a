import RecordScreens.Listing.Page
import RecordScreens.Listing.Params
import RecordScreens.Query.State
import RecordScreens.Record.Basic

/-!
# List queries

A query for pages of a list. The last fetch wins: an answer is kept only if no other
fetch was begun after the one that it belongs to.
-/

namespace RecordScreens

/-- A query for pages of records. -/
structure ListQuery where
  key : String
  /-- Reads an item as a record, and gives the full form of that record. -/
  fullForm? : Json → Option Json
  /-- The number of the last fetch that was begun. -/
  issued : Nat := 0
  /-- The number of the last fetch whose answer was kept. -/
  settled : Nat := 0
  lastParams : Option ListParams := none
  watch : Watch (QueryState (Page Json)) := { value := .pending }

/-- Reads an answer as a page. Without a total, the page is taken for the last one. -/
def Page.ofAnswer (key : String) (fullForm? : Json → Option Json) (offset : Nat) (answer : Json) :
    Except QueryError (Page Json) :=
  match answer with
  | .object members =>
    match Dict.get? members "items" with
    | none => .error (.decode key .missingItems)
    | some (.array items) =>
      match items.mapM fullForm? with
      | some items =>
        .ok { items, total := ((Dict.get? members "total").bind Json.asNat?).getD (offset + items.length), offset }
      | none => .error (.decode key .unfitting)
    | some _ => .error (.decode key .unfitting)
  | _ => .error (.decode key .notAPage)

namespace ListQuery

/-- A query for records of one kind. -/
def ofRecords (R : Type) [Record R] (key : String) : ListQuery := { key, fullForm? := Record.fullForm? R }

/-- What the query knows. -/
def state (q : ListQuery) : QueryState (Page Json) := q.watch.value

/-- Whether the last fetch has not been answered. -/
def isFetching (q : ListQuery) : Bool := q.issued != q.settled

/-- The parameters of the next fetch of the same page. -/
def refetchParams (q : ListQuery) : ListParams := q.lastParams.getD {}

/-- Begins a fetch, which takes the next number. -/
def begin (p : ListParams) (q : ListQuery) : ListQuery :=
  { q with issued := q.issued + 1, lastParams := some p }

/-- Takes in the answer to the fetch with a number. -/
def settle (fetch : Nat) (result : Except QueryError (Page Json)) (q : ListQuery) : FetchOutcome × ListQuery :=
  if q.issued = fetch then
    (.ofResult result, { q with settled := fetch, watch := q.watch.send (.ofResult result) })
  else (.stale, q)

/-- The answer to a fetch as a page of records. -/
def read (q : ListQuery) (p : ListParams) (answer : Except QueryError Json) : Except QueryError (Page Json) :=
  answer.bind (Page.ofAnswer q.key q.fullForm? p.offset)

end ListQuery

end RecordScreens
