import RecordScreens.Detail.Config
import RecordScreens.Listing.Document

/-!
# Detail configurations in documents

Detail screens as they are written by hand, and overviews of those that were built.
-/

namespace RecordScreens

/-- A section, which is drawn by what has its id if nothing else is said. -/
def SectionSpec.ofDocument? : Decoder SectionSpec := fun v => do
  let fs ← Decoder.fields ["id", "label", "icon", "showCount", "component"] v
  let id ← fs.required "id" .string
  return {
    id
    label := ← fs.required "label" .string
    icon := ← fs.optional "icon" .string
    showCount := ← fs.withDefault "showCount" .bool false
    component := (← fs.optional "component" .string).getD id }

def JourneyStep.ofDocument? : Decoder JourneyStep := fun v => do
  let fs ← Decoder.fields ["id", "label", "icon", "active", "completed"] v
  return {
    id := ← fs.required "id" .string
    label := ← fs.required "label" .string
    icon := ← fs.optional "icon" .string
    activeStatuses := ← fs.withDefault "active" (.list .string) []
    completedStatuses := ← fs.withDefault "completed" (.list .string) [] }

/-- A query with a name. -/
def QueryDescriptor.namedOfDocument? : Decoder (String × QueryDescriptor) := fun v => do
  return (← (v.get? "name").bind Json.asString?, ← QueryDescriptor.decode v)

variable {R : Type} [Record R]

/-- A title that shows a field, or that a template makes. -/
def titleOfDocument? : Decoder (R → String) := fun v =>
  match v.get? "field" with
  | some field => (field.asString?).map DetailDraft.fieldTitle
  | none => ((v.get? "template").bind Json.asString?).map expandPath

def DetailDraft.ofDocument? : Decoder (DetailDraft R) := fun v => do
  let fs ← Decoder.fields
    ["entityType", "baseRoute", "eventNamespace", "entityQuery", "title", "statuses", "breadcrumbs",
     "subtitleFields", "metrics", "sections", "defaultSection", "journey", "quickActions", "menu", "related"] v
  return {
    entityType := ← fs.required "entityType" .string
    baseRoute := fs.text? "baseRoute"
    channel := fs.text? "eventNamespace"
    entityQuery := fs.text? "entityQuery"
    title := ← fs.optional "title" titleOfDocument?
    statusTable := ← fs.withDefault "statuses" StatusTable.ofDocument? {}
    breadcrumbs := ← fs.withDefault "breadcrumbs" (.list Breadcrumb.decode) []
    subtitleFields := ← fs.withDefault "subtitleFields" (.list ColumnSpec.ofDocument?) []
    metrics := ← fs.withDefault "metrics" (.list MetricSpec.ofDocument?) []
    sections := ← fs.withDefault "sections" (.list SectionSpec.ofDocument?) []
    defaultSection := fs.text? "defaultSection"
    journey := ← fs.withDefault "journey" (.list JourneyStep.ofDocument?) []
    quickActions := ← fs.withDefault "quickActions" (.list ActionSpec.ofDocument?) []
    menu := ← fs.withDefault "menu" (.list MenuEntry.ofDocument?) []
    related := ← fs.withDefault "related" (.list QueryDescriptor.namedOfDocument?) [] }

/-- All of a detail configuration but its code. -/
def DetailConfig.overview (c : DetailConfig R) : List (String × Json) :=
  [("entityType", .string c.entityType),
   ("baseRoute", .string c.baseRoute),
   ("eventNamespace", .string c.channel),
   ("entityQuery", .string c.entityQuery),
   ("statuses", .strings c.statusTable.statuses),
   ("breadcrumbs", .array (c.breadcrumbs.map (·.encode))),
   ("subtitleFields", .array (c.subtitleFields.map (·.overview))),
   ("metrics", .array (c.metrics.map (·.overview))),
   ("sections", .array (c.sections.map (·.encode))),
   ("defaultSection", .string c.defaultSection),
   ("journey", .array (c.journey.map (·.encode))),
   ("quickActions", .array (c.quickActions.map (·.overview))),
   ("menu", .array (c.menu.map (·.overview))),
   ("related", c.related.encode)]

end RecordScreens
