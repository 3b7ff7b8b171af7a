import RecordScreens.Source.Basic
import RecordScreens.Source.Matching

/-!
# In-memory store

A data source over named collections of values. Each key is served by a route: a list,
a look-up by id, a fixed value, a change of status, or a failure. The store answers at
once, and keeps a log of all calls.
-/

namespace RecordScreens

/-- How a key is served. -/
inductive Route where
  /-- Pages of a collection, with the fields that a search looks in. -/
  | list (collection : String) (searchFields : List String)
  /-- The value with the id in the parameters. -/
  | get (collection : String)
  /-- The values whose field equals the parameter of the same name. -/
  | matching (collection field : String)
  | value (v : Json)
  /-- Sets the status of the value with the id in the parameters. -/
  | setStatus (collection : String)
  | fail (message : String)
  deriving DecidableEq

/-- Collections, routes, and the calls so far. -/
structure Store where
  collections : Dict (List Json) := []
  routes : Dict Route := []
  calls : List (String × Json) := []
  deriving DecidableEq

namespace Store

/-! ## Records -/

/-- The id of a value in a collection, if it has one. -/
def idOf? (record : Json) : Option String := (record.get? "id").bind Json.asString?

/-- The values of a collection; an unknown one is empty. -/
def records (s : Store) (collection : String) : List Json := (Dict.get? s.collections collection).getD []

/-- The first value with an id. -/
def find? (records : List Json) (id : String) : Option Json := records.find? fun r => idOf? r == some id

/-- A value with another status; what is no object has none. -/
def withStatus (status : Json) : Json → Json
  | .object members => .object (Dict.insert members "status" status)
  | v => v

/-- Changes the first value with an id. -/
def updateFirst (id : String) (change : Json → Json) : List Json → List Json
  | [] => []
  | r :: rest => if idOf? r = some id then change r :: rest else r :: updateFirst id change rest

/-! ## Answers -/

/-- A failure of a call. -/
def failed {α : Type} (key message : String) : Except QueryError α := .error (.source key message)

/-- A part of a call that has to be there. -/
def orFail {α : Type} (key message : String) : Option α → Except QueryError α
  | some a => .ok a
  | none => failed key message

def notFound (id : String) : String := "record '" ++ id ++ "' not found"

/-- Sets a status: the changed value and the collections with it. -/
def setStatus (s : Store) (key collection : String) (params : Json) :
    Except QueryError (Json × Dict (List Json)) :=
  match (params.get? "id").bind Json.asString?, params.get? "status" with
  | some id, some status => do
    let record ← orFail key (notFound id) (find? (s.records collection) id)
    let records := updateFirst id (withStatus status) (s.records collection)
    return (withStatus status record, Dict.insert s.collections collection records)
  | _, _ => failed key "expected \x7b id, status \x7d"

/-- The answer of a route that changes nothing. -/
def lookUp (s : Store) (key : String) (params : Json) : Route → Except QueryError Json
  | .list collection searchFields =>
    match ListParams.decode params with
    | some p => .ok (Source.page searchFields p (s.records collection))
    | none => .error (.decode key .unfitting)
  | .get collection => do
    let id ← orFail key "missing id" ((params.get? "id").bind Json.asString?)
    orFail key (notFound id) (find? (s.records collection) id)
  | .matching collection field => do
    let expected ← orFail key ("missing " ++ field) (params.get? field)
    return .array ((s.records collection).filter fun r =>
      (r.get? field).any fun actual => Source.valueMatches actual expected)
  | .value v => .ok v
  | .setStatus collection => (s.setStatus key collection params).map (·.1)
  | .fail message => failed key message

/-- The collections after a call. -/
def collectionsAfter (s : Store) (key : String) (params : Json) : Option Route → Dict (List Json)
  | some (.setStatus collection) =>
    match s.setStatus key collection params with
    | .ok (_, collections) => collections
    | .error _ => s.collections
  | _ => s.collections

/-- Answers a call. Queries and mutations are not told apart. -/
def call (key : String) (params : Json) (s : Store) : Except QueryError Json × Store :=
  let route := Dict.get? s.routes key
  let result := match route with
    | some route => s.lookUp key params route
    | none => failed key "no route"
  (result, { s with
    collections := s.collectionsAfter key params route
    calls := s.calls ++ [(key, params)] })

instance : DataSource Store where
  query key params s := ((⟨(call key params s).1, none⟩), (call key params s).2)
  mutate key params s := ((⟨(call key params s).1, none⟩), (call key params s).2)

/-! ## Set-up and log -/

/-- Adds or replaces a collection. -/
def withCollection (s : Store) (name : String) (records : List Json) : Store :=
  { s with collections := Dict.insert s.collections name records }

/-- Serves a key by a route from now on. -/
def withRoute (s : Store) (key : String) (route : Route) : Store :=
  { s with routes := Dict.insert s.routes key route }

/-- Lets a key fail from now on. -/
def fail (s : Store) (key message : String) : Store := s.withRoute key (.fail message)

/-- How often a key was called. -/
def callCount (s : Store) (key : String) : Nat := s.calls.countP (·.1 == key)

end Store

end RecordScreens
