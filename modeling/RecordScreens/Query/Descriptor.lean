import RecordScreens.Json.Decoder
import RecordScreens.Json.Parser

/-!
# Query descriptors

Queries as they are written in configurations: a key with parameters, in which the
id of the entity on the screen stands as a placeholder.
-/

namespace RecordScreens

/-- Stands for the id of the entity on the screen. -/
def entityIdPlaceholder : String := "\x7bid\x7d"

/-- A query key with its parameters. -/
structure QueryDescriptor where
  queryKey : String
  params : Json.Object := []
  deriving DecidableEq

namespace QueryDescriptor

/-- A parameter in which the placeholder is replaced by the id, if there is one. -/
def bindValue (entityId : Option String) (v : Json) : Json :=
  match v, entityId with
  | .string s, some id => if s = entityIdPlaceholder then .string id else .string s
  | v, _ => v

/-- The parameters for an entity. -/
def bind (q : QueryDescriptor) (entityId : Option String) : Json :=
  .object (Dict.mapValues (bindValue entityId) q.params)

def encode (q : QueryDescriptor) : Json :=
  Json.ofMembers <|
    [("queryKey", .string q.queryKey)]
    ++ Json.optional "params" (if q.params = [] then none else some (.object q.params))

def decode : Decoder QueryDescriptor := fun v => do
  let fs ← Decoder.fields ["queryKey", "params"] v
  return {
    queryKey := ← fs.required "queryKey" .string
    params := ← fs.withDefault "params" .object [] }

end QueryDescriptor

/-- Where the data of a screen comes from. -/
inductive DataSpec where
  /-- One list, page by page. -/
  | list (queryKey : String)
  /-- Several queries by name. -/
  | aggregate (queries : Dict QueryDescriptor)
  deriving DecidableEq

namespace DataSpec

/-- Several queries by name; a later one replaces an earlier one of the same name. -/
def ofQueries (queries : List (String × QueryDescriptor)) : DataSpec := .aggregate (Dict.ofList queries)

/-- The queries of an aggregate. -/
def queries : DataSpec → Dict QueryDescriptor
  | list _ => []
  | aggregate queries => queries

def encode : DataSpec → Json
  | list queryKey => Json.ofMembers [("kind", .string "list"), ("queryKey", .string queryKey)]
  | aggregate queries =>
    Json.ofMembers [("kind", .string "aggregate"), ("queries", .object (Dict.mapValues (·.encode) queries))]

def decode : Decoder DataSpec := fun v => do
  let (kind, content) ← Decoder.tagged "kind" v
  if kind = "list" then
    let fs ← Decoder.fields ["queryKey"] content
    return .list (← fs.required "queryKey" .string)
  else if kind = "aggregate" then
    let fs ← Decoder.fields ["queries"] content
    return .aggregate (← fs.required "queries" (.dict QueryDescriptor.decode))
  else none

/-- The data with all members put in order, the last of each name. -/
def ordered : DataSpec → DataSpec
  | list queryKey => .list queryKey
  | aggregate queries =>
    .ofQueries (queries.map fun q => (q.1, { q.2 with params := Json.orderedMembers [] q.2.params }))

end DataSpec

end RecordScreens
