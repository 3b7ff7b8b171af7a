import RecordScreens.Query.Aggregate
import RecordScreens.Query.Paged
import RecordScreens.Query.Single
import RecordScreens.Source.Basic

/-!
# Live queries

A source together with the queries that live on it, each as long as someone holds it.
A mutation that succeeds fetches again what depends on the keys that it invalidates. No
call takes longer than the timeout.
-/

namespace RecordScreens

/-- A query of any kind. -/
inductive LiveQuery where
  | list (q : ListQuery)
  | record (q : RecordQuery)
  | aggregate (q : AggregateQuery)

/-- The keys that a query depends on. -/
def LiveQuery.queryKeys : LiveQuery → List String
  | list q => [q.key]
  | record q => [q.key]
  | aggregate q => q.queryKeys

/-- How often the state of a query was announced. -/
def LiveQuery.version : LiveQuery → Nat
  | list q => q.watch.version
  | record q => q.watch.version
  | aggregate q => q.watch.version

/-- A query that was handed out, and how many still hold it. -/
structure Registered where
  query : LiveQuery
  holders : Nat := 1

/-- Whether anyone holds a query. -/
def Registered.live (r : Registered) : Bool := 0 < r.holders

/-- A source with the queries that were handed out, each numbered by its place. -/
structure Binder (S : Type) where
  source : S
  timeout : Nat := 5000
  queries : List Registered := []

namespace Binder

variable {S : Type}

/-! ## Queries -/

/-- Hands out a query under the next number. -/
def register (q : LiveQuery) (b : Binder S) : Nat × Binder S :=
  (b.queries.length, { b with queries := b.queries ++ [{ query := q }] })

/-- Adds a holder of a query. -/
def retain (i : Nat) (b : Binder S) : Binder S :=
  { b with queries := b.queries.modify i fun r => { r with holders := r.holders + 1 } }

/-- Takes away a holder of a query. Without one, the query is no longer fetched again. -/
def release (i : Nat) (b : Binder S) : Binder S :=
  { b with queries := b.queries.modify i fun r => { r with holders := r.holders - 1 } }

/-- How many queries someone holds. -/
def liveQueries (b : Binder S) : Nat := b.queries.countP (·.live)

def list? (b : Binder S) (i : Nat) : Option ListQuery :=
  match b.queries[i]? with
  | some ⟨.list q, _⟩ => some q
  | _ => none

def record? (b : Binder S) (i : Nat) : Option RecordQuery :=
  match b.queries[i]? with
  | some ⟨.record q, _⟩ => some q
  | _ => none

def aggregate? (b : Binder S) (i : Nat) : Option AggregateQuery :=
  match b.queries[i]? with
  | some ⟨.aggregate q, _⟩ => some q
  | _ => none

/-- How often the state of a query was announced. -/
def version (b : Binder S) (i : Nat) : Nat := ((b.queries[i]?).map (·.query.version)).getD 0

/-- Changes what is known of a query. -/
def put (i : Nat) (q : LiveQuery) (b : Binder S) : Binder S :=
  { b with queries := b.queries.modify i fun r => { r with query := q } }

/-- Changes an aggregate. -/
def updateAggregate (i : Nat) (f : AggregateQuery → AggregateQuery) (b : Binder S) : Binder S :=
  match b.aggregate? i with
  | some q => b.put i (.aggregate (f q))
  | none => b

/-! ## Calls -/

variable [DataSource S]

/-- Asks the source. -/
def ask (key : String) (params : Json) (b : Binder S) : Reply × Binder S :=
  let (reply, source) := DataSource.query key params b.source
  (reply, { b with source })

/-- Tells the source to change something. -/
def tell (key : String) (params : Json) (b : Binder S) : Reply × Binder S :=
  let (reply, source) := DataSource.mutate key params b.source
  (reply, { b with source })

/-- Waits for a reply, but no longer than the timeout. -/
def await (key : String) (reply : Reply) : Routine (Binder S) (Except QueryError Json) :=
  Routine.act id fun b => reply.await key b.timeout

/-- A query on its own. -/
def query (key : String) (params : Json) : Routine (Binder S) (Except QueryError Json) := do
  let reply ← Routine.step (ask key params)
  await key reply

/-- The record with an id, on its own. -/
def fetchRecord (R : Type) [Record R] (key id : String) : Routine (Binder S) (Except QueryError Json) := do
  return (← query key (RecordQuery.params id)).bind (Record.ofAnswer key (Record.fullForm? R))

/-! ## Fetches -/

/-- Takes in the answer to a numbered fetch of a list query. -/
def settleList (i fetch : Nat) (p : ListParams) (answer : Except QueryError Json) (b : Binder S) :
    FetchOutcome × Binder S :=
  match b.list? i with
  | none => (.stale, b)
  | some q =>
    let (outcome, q) := q.settle fetch (q.read p answer)
    (outcome, b.put i (.list q))

/-- Fetches a page of a list query. -/
def fetchList (i : Nat) (p : ListParams) : Routine (Binder S) FetchOutcome :=
  Routine.act id fun b =>
    match b.list? i with
    | none => .done .stale
    | some q => do
      Routine.modify (put i (.list (q.begin p)))
      let answer ← query q.key p.toQuery
      Routine.step (settleList i (q.begin p).issued p answer)

/-- Fetches the last page of a list query again. -/
def refetchList (i : Nat) : Routine (Binder S) FetchOutcome :=
  Routine.act id fun b => fetchList i (((b.list? i).map (·.refetchParams)).getD {})

/-- Takes in the answer to a numbered fetch of a record query. -/
def settleSingle (i fetch : Nat) (answer : Except QueryError Json) (b : Binder S) : FetchOutcome × Binder S :=
  match b.record? i with
  | none => (.stale, b)
  | some q =>
    let (outcome, q) := q.settle fetch (q.read answer)
    (outcome, b.put i (.record q))

/-- Fetches the record of a record query. -/
def fetchSingle (i : Nat) : Routine (Binder S) FetchOutcome :=
  Routine.act id fun b =>
    match b.record? i with
    | none => .done .stale
    | some q => do
      Routine.modify (put i (.record q.begin))
      let answer ← query q.key (RecordQuery.params q.id)
      Routine.step (settleSingle i q.begin.issued answer)

/-- Asks one query of an aggregate as part of the fetch with a number. -/
def fetchPart (i fetch : Nat) (entityId : Option String) (name : String) (q : QueryDescriptor) :
    Routine (Binder S) Unit := do
  let answer ← query q.queryKey (q.bind entityId)
  Routine.modify (updateAggregate i (·.settle fetch name answer))

/-- Fetches all queries of an aggregate at once, and ends when all have settled. -/
def fetchAggregate (i : Nat) : Routine (Binder S) AggregateResult :=
  Routine.act (updateAggregate i (·.begin)) fun b =>
    match b.aggregate? i with
    | none => .done []
    | some q => do
      let _ ← Routine.all (q.queries.map fun entry => fetchPart i q.begin.issued q.entityId entry.1 entry.2)
      Routine.read fun b => ((b.aggregate? i).map (·.result)).getD []

/-- Fetches one name of an aggregate again, if it has this name. -/
def refetchName (i : Nat) (name : String) : Routine (Binder S) Bool :=
  Routine.act id fun b =>
    match b.aggregate? i with
    | none => .done false
    | some q =>
      match Dict.get? q.queries name with
      | none => .done false
      | some descriptor => do
        Routine.modify (updateAggregate i (·.beginName name))
        let answer ← query descriptor.queryKey (descriptor.bind q.entityId)
        Routine.modify (updateAggregate i (·.settleName (q.issuedFor name + 1) q.issued name answer))
        return true

/-- Fetches the names of an aggregate that depend on a key, one after the other. -/
def refetchNames (i : Nat) (names : List String) : Routine (Binder S) Unit := do
  let _ ← Routine.sequence (names.map (refetchName i))

/-! ## Mutations -/

/-- Fetches again what a query has of a key. -/
def refresh (i : Nat) (q : LiveQuery) (key : String) : Routine (Binder S) Unit :=
  match q with
  | .list _ => do let _ ← refetchList i
  | .record _ => do let _ ← fetchSingle i
  | .aggregate q => refetchNames i (q.namesOf key)

/-- The live queries with each of their keys that is among the given ones. -/
def dependents (keys : List String) (b : Binder S) : List (Nat × LiveQuery × String) :=
  b.queries.zipIdx.flatMap fun (r, i) =>
    if r.live then (r.query.queryKeys.filter keys.contains).map fun key => (i, r.query, key) else []

/-- Fetches again all that depends on the keys, at once, and counts it. What is found is held until all
of it has settled. -/
def invalidate (keys : List String) : Routine (Binder S) Nat :=
  Routine.act (fun b => (b.dependents keys).foldl (fun b found => b.retain found.1) b) fun b => do
    let found := b.dependents keys
    let _ ← Routine.all (found.map fun (i, q, key) => refresh i q key)
    Routine.modify fun b => found.foldl (fun b found => b.release found.1) b
    return found.length

/-- Runs a mutation; if it succeeds, what depends on the given keys is fetched again. -/
def mutate (key : String) (params : Json) (invalidates : List String) :
    Routine (Binder S) (Except QueryError Json) := do
  let reply ← Routine.step (tell key params)
  match ← await key reply with
  | .error e => return .error e
  | .ok v =>
    if invalidates ≠ [] then
      let _ ← invalidate invalidates
    return .ok v

end Binder

end RecordScreens
