import RecordScreens.Query.Descriptor
import RecordScreens.Query.State

/-!
# Aggregates

Several queries by name that are fetched together. Each name has a state of its own, so
that one that fails takes nothing from the others. Fetches of the whole and of single
names are numbered apart.
-/

namespace RecordScreens

/-- What is known by name. -/
abbrev AggregateResult := Dict (QueryState Json)

namespace AggregateResult

/-- Nothing is known of any of the queries. -/
def pending (queries : Dict QueryDescriptor) : AggregateResult := Dict.mapValues (fun _ => .pending) queries

/-- Whether every query has settled. -/
def isReady (r : AggregateResult) : Bool := r.all fun entry => !entry.2.isPending

/-- The data of a name. -/
def data? (r : AggregateResult) (name : String) : Option Json := (Dict.get? r name).bind QueryState.data?

/-- The error of a name. -/
def error? (r : AggregateResult) (name : String) : Option QueryError := (Dict.get? r name).bind QueryState.error?

/-- The names that settled with an error. -/
def failed (r : AggregateResult) : List String := Dict.keys (r.filter (·.2.isError))

end AggregateResult

/-- Queries by name, for an entity if they are about one. -/
structure AggregateQuery where
  queries : Dict QueryDescriptor
  entityId : Option String := none
  /-- The number of the last fetch of the whole. -/
  issued : Nat := 0
  /-- The numbers of the last fetches of single names. -/
  issuedByName : Dict Nat := []
  watch : Watch AggregateResult

namespace AggregateQuery

/-- An aggregate of which nothing is known yet. -/
def ofQueries (queries : Dict QueryDescriptor) (entityId : Option String) : AggregateQuery :=
  { queries, entityId, watch := { value := .pending queries } }

/-- What is known. -/
def result (q : AggregateQuery) : AggregateResult := q.watch.value

/-- The names in order. -/
def names (q : AggregateQuery) : List String := Dict.keys q.queries

/-- The keys that the aggregate depends on, each once, in order. -/
def queryKeys (q : AggregateQuery) : List String :=
  Dict.keys (Dict.ofList (q.queries.map fun entry => (entry.2.queryKey, ())))

/-- The names that depend on a key. -/
def namesOf (q : AggregateQuery) (queryKey : String) : List String :=
  Dict.keys (q.queries.filter (·.2.queryKey == queryKey))

/-- The number of the last fetch of a name alone. -/
def issuedFor (q : AggregateQuery) (name : String) : Nat := (Dict.get? q.issuedByName name).getD 0

/-- Makes the state of a name known. -/
def publish (name : String) (state : QueryState Json) (q : AggregateQuery) : AggregateQuery :=
  { q with watch := q.watch.send (Dict.insert q.result name state) }

/-- Begins a fetch of the whole: nothing is known any more. -/
def begin (q : AggregateQuery) : AggregateQuery :=
  { q with issued := q.issued + 1, watch := q.watch.send (.pending q.queries) }

/-- Takes in the answer for one name to the fetch of the whole with a number. -/
def settle (fetch : Nat) (name : String) (result : Except QueryError Json) (q : AggregateQuery) : AggregateQuery :=
  if q.issued = fetch then q.publish name (.ofResult result) else q

/-- Begins a fetch of one name. -/
def beginName (name : String) (q : AggregateQuery) : AggregateQuery :=
  { q with issuedByName := Dict.insert q.issuedByName name (q.issuedFor name + 1) }

/-- Takes in the answer to the fetch of one name with a number, begun after the fetch `whole` of the whole. -/
def settleName (fetch whole : Nat) (name : String) (result : Except QueryError Json) (q : AggregateQuery) :
    AggregateQuery :=
  if q.issuedFor name = fetch ∧ q.issued = whole then q.publish name (.ofResult result) else q

end AggregateQuery

end RecordScreens
