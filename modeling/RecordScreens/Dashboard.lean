import RecordScreens.Chrome.Stats
import RecordScreens.Detail.Config
import RecordScreens.Json.Parser
import RecordScreens.Listing.Config

/-!
# Dashboards

Screens that are data all through, so that they can be read from a document. Each
section shows one of the queries of the dashboard.
-/

namespace RecordScreens

/-- A screen over a list or over several queries. -/
structure Dashboard where
  id : String
  title : String
  description : Option String := none
  data : DataSpec
  /-- The query that feeds the stats cards. -/
  statsKey : Option String := none
  statsCards : List StatsCard := []
  sections : List SectionSpec := []
  defaultSection : Option String := none
  deriving DecidableEq

namespace Dashboard

/-! ## Documents -/

def encode (d : Dashboard) : Json :=
  Json.ofMembers <|
    [("id", .string d.id), ("title", .string d.title)]
    ++ Json.optional "description" (d.description.map .string)
    ++ [("dataSource", d.data.encode)]
    ++ Json.optional "statsKey" (d.statsKey.map .string)
    ++ [("statsCards", .array (d.statsCards.map (·.encode))), ("sections", .array (d.sections.map (·.encode)))]
    ++ Json.optional "defaultSection" (d.defaultSection.map .string)

/-- The fields of a dashboard in order, and what is read of each. -/
def fieldShapes : List (String × Json.Shape) :=
  [("id", .any), ("title", .any), ("description", .any), ("dataSource", .any), ("statsKey", .any),
    ("statsCards", .list (.ofNames StatsCard.fieldNames)), ("sections", .list (.ofNames SectionSpec.fieldNames)),
    ("defaultSection", .any)]

def decode : Decoder Dashboard := fun v => do
  let fs ← Decoder.fields (fieldShapes.map (·.1)) v
  return {
    id := ← fs.required "id" .string
    title := ← fs.required "title" .string
    description := ← fs.optional "description" .string
    data := ← fs.required "dataSource" DataSpec.decode
    statsKey := ← fs.optional "statsKey" .string
    statsCards := ← fs.withDefault "statsCards" (.list StatsCard.decode) []
    sections := ← fs.withDefault "sections" (.list SectionSpec.decode) []
    defaultSection := ← fs.optional "defaultSection" .string }

/-! ## Validation -/

/-- The names of queries that a dashboard refers to. -/
def references (d : Dashboard) : List String := d.statsKey.toList ++ d.sections.map (·.component)

/-- The name that configuration errors give to dashboards. -/
def configName : String := "ScreenConfig"

/-- Finds the first fault of a dashboard. -/
def validate (d : Dashboard) : Except ConfigError Unit := do
  ConfigError.ensure (.missingField configName "id") (d.id ≠ "")
  ConfigError.ensure (.missingField configName "title") (d.title ≠ "")
  ensureUnique "section" (d.sections.map (·.id))
  if let some id := d.defaultSection then
    ConfigError.ensure (.unknownDefaultSection id) (SectionSpec.declares d.sections id)
  match d.data with
  | .list _ => return ()
  | .aggregate queries =>
    d.references.forM fun key =>
      ConfigError.ensure (.unknownField "aggregate key" key) (Dict.contains queries key)

/-- Reads a dashboard from a document and checks it. -/
def ofText (text : String) : Except ConfigError Dashboard :=
  match (Json.parseAsWritten? (.record fieldShapes) text).bind decode with
  | none => .error .malformed
  | some d => do
    d.validate
    return { d with data := d.data.ordered }

/-- The section that is shown first. -/
def initialSection (d : Dashboard) : Option String :=
  match d.defaultSection with
  | some id => some id
  | none => d.sections.head?.map (·.id)

end Dashboard

/-! ## Screens of all kinds -/

/-- The configuration of a screen of any kind. -/
inductive ScreenConfig (R : Type) where
  | list (config : ListConfig R)
  | detail (config : DetailConfig R)
  | dashboard (config : Dashboard)

/-- The name of the kind of a screen. -/
def ScreenConfig.kind {R : Type} : ScreenConfig R → String
  | list _ => "list"
  | detail _ => "detail"
  | dashboard _ => "screen"

end RecordScreens
