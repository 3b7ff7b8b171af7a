import RecordScreens.Dashboard
import RecordScreens.Detail.Document

/-!
# Dashboards in documents

Dashboards as they are written by hand: over one list query or over named queries, with
stats cards only beside a stats query.
-/

namespace RecordScreens

/-- The query of a list, or else the queries by name. -/
def DataSpec.ofDocument? (listQuery : Option String) (queries : List Json) : Option DataSpec :=
  match listQuery with
  | some key => some (.list key)
  | none => (queries.mapM QueryDescriptor.namedOfDocument?).map .ofQueries

def Dashboard.ofDocument? : Decoder Dashboard := fun v => do
  let fs ← Decoder.fields ["id", "title", "listQuery", "queries", "statsKey", "statsCards", "sections"] v
  let statsKey ← fs.optional "statsKey" .string
  let cards ← fs.withDefault "statsCards" (.list StatsCard.decode) []
  return {
    id := ← fs.required "id" .string
    title := ← fs.required "title" .string
    data := ← DataSpec.ofDocument? (← fs.optional "listQuery" .string) (← fs.withDefault "queries" (.list .json) [])
    statsKey
    statsCards := if statsKey.isSome then cards else []
    sections := ← fs.withDefault "sections" (.list SectionSpec.ofDocument?) [] }

end RecordScreens
