import RecordScreens.Action.Document
import RecordScreens.Column.Document
import RecordScreens.Listing.Config

/-!
# List configurations in documents

Lists as they are written by hand, and overviews of those that were built.
-/

namespace RecordScreens

/-- A status with how it is shown. -/
def StatusTable.entryOfDocument? : Decoder (String × StatusConfig) := fun v => do
  return (← (v.get? "status").bind Json.asString?, ← StatusConfig.decode v)

def StatusTable.ofDocument? : Decoder StatusTable := fun v =>
  (Decoder.list StatusTable.entryOfDocument? v).map .ofList

def EmptyState.ofDocument? : Decoder EmptyState := fun v => do
  let fs ← Decoder.fields ["title", "unfiltered", "action"] v
  return {
    title := ← fs.required "title" .string
    unfilteredDescription := ← fs.withDefault "unfiltered" .string ""
    action := ← fs.optional "action" LinkAction.decode }

/-- A key to sort by, with the order. -/
def sortOfDocument? : Decoder (String × SortOrder) := fun v => do
  let fs ← Decoder.fields ["key", "order"] v
  return (← fs.required "key" .string, ← fs.required "order" SortOrder.decode)

/-- The names of one and of several. -/
def EntityName.ofDocument? : Decoder EntityName
  | .array [.string singular, .string plural] => some { singular, plural }
  | _ => none

variable {R : Type} [Record R]

def ListDraft.ofDocument? : Decoder (ListDraft R) := fun v => do
  let fs ← Decoder.fields
    ["entityType", "entityName", "baseRoute", "title", "description", "icon", "primaryAction", "statsCards",
     "statsQuery", "filters", "columns", "statuses", "listQuery", "pageSize", "defaultSort", "emptyState",
     "quickActions"] v
  return {
    entityType := ← fs.required "entityType" .string
    entityName := ← fs.optional "entityName" EntityName.ofDocument?
    baseRoute := fs.text? "baseRoute"
    title := fs.text? "title"
    description := fs.text? "description"
    icon := fs.text? "icon"
    primaryAction := ← fs.optional "primaryAction" LinkAction.decode
    statsCards := ← fs.withDefault "statsCards" (.list StatsCard.decode) []
    statsQuery := fs.text? "statsQuery"
    filters := ← fs.withDefault "filters" (.list FilterSpec.decode) []
    columns := ← fs.withDefault "columns" (.list ColumnSpec.ofDocument?) []
    statusTable := ← fs.withDefault "statuses" StatusTable.ofDocument? {}
    listQuery := fs.text? "listQuery"
    pageSize := ← fs.withDefault "pageSize" .nat64 defaultPageSize
    defaultSort := ← fs.optional "defaultSort" sortOfDocument?
    emptyState := ← fs.optional "emptyState" EmptyState.ofDocument?
    quickActions := ← fs.withDefault "quickActions" (.list ActionSpec.ofDocument?) [] }

/-- All of a list configuration but its code. -/
def ListConfig.overview (c : ListConfig R) : List (String × Json) :=
  [("entityType", .string c.entityType),
   ("entityName", c.entityName.encode),
   ("baseRoute", .string c.baseRoute),
   ("title", .string c.title),
   ("description", .orNull (c.description.map .string)),
   ("icon", .orNull (c.icon.map .string)),
   ("primaryAction", .orNull (c.primaryAction.map (·.encode))),
   ("statsCards", .array (c.statsCards.map (·.encode))),
   ("statsQuery", .orNull (c.statsQuery.map .string)),
   ("filters", .array (c.filters.map (·.encode))),
   ("columns", .array (c.columns.map (·.overview))),
   ("statuses", .strings c.statusTable.statuses),
   ("listQuery", .string c.listQuery),
   ("pageSize", .ofNat c.pageSize),
   ("defaultSort", .orNull (c.defaultSort.map fun s => .array [.string s.1, s.2.encode])),
   ("emptyState", c.emptyState.encode),
   ("quickActions", .array (c.quickActions.map (·.overview)))]

end RecordScreens
