import RecordScreens.Failure.Report
import RecordScreens.Query.Aggregate
import RecordScreens.Query.Paged
import RecordScreens.Query.Single

/-!
# Reports of queries

What queries know, as JSON.
-/

namespace RecordScreens

def FetchOutcome.report : FetchOutcome → Json
  | .applied => .string "applied"
  | .stale => .string "stale"
  | .failed e => Json.ofMembers [("failed", e.report)]

def QueryState.report {α : Type} (data : α → Json) : QueryState α → Json
  | .pending => Json.ofMembers [("pending", .bool true), ("isError", .bool false)]
  | .data a => Json.ofMembers [("data", data a)]
  | .error e => Json.ofMembers [("error", e.report)]

def ListQuery.report (q : ListQuery) : Json :=
  Json.ofMembers
    [("key", .string q.key), ("state", q.state.report Page.encode), ("fetching", .bool q.isFetching),
     ("lastParams", .orNull (q.lastParams.map (·.encode)))]

def RecordQuery.report (q : RecordQuery) : Json :=
  Json.ofMembers [("key", .string q.key), ("id", .string q.id), ("state", q.state.report fun v => v)]

def AggregateResult.report (r : AggregateResult) : Json :=
  Json.ofMembers
    [("ready", .bool r.isReady), ("failed", .strings r.failed), ("len", .ofNat r.length),
     ("empty", .bool r.isEmpty), ("entries", .object (Dict.mapValues (·.report id) r))]

def AggregateQuery.report (q : AggregateQuery) : Json :=
  Json.ofMembers [("names", .strings q.names), ("result", q.result.report)]

/-- What is known of one name. -/
def AggregateResult.reportName (r : AggregateResult) (name : String) : Json :=
  Json.ofMembers
    [("get", .orNull ((Dict.get? r name).map (·.report id))), ("data", .orNull (r.data? name)),
     ("error", .orNull ((r.error? name).map (·.report)))]

end RecordScreens
