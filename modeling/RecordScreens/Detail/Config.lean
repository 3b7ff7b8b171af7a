import RecordScreens.Action.Menu
import RecordScreens.Chrome.Links
import RecordScreens.Column.Metric
import RecordScreens.Column.Spec
import RecordScreens.Query.Descriptor
import RecordScreens.Section.Journey
import RecordScreens.Section.Spec
import RecordScreens.Status.Table

/-!
# Detail configurations

What a screen for one record is made of: a header, sections, the stages of its life,
actions, and related queries that are loaded beside the record.
-/

namespace RecordScreens

/-- A detail screen that is ready to be shown. -/
structure DetailConfig (R : Type) where
  entityType : String
  baseRoute : String
  /-- The channel that the dialog requests of this screen are published on. -/
  channel : String
  /-- The query for the record itself. -/
  entityQuery : String
  /-- The title for a record. -/
  title : R → String
  statusTable : StatusTable
  breadcrumbs : List Breadcrumb
  subtitleFields : List (ColumnSpec R)
  metrics : List (MetricSpec R)
  sections : List SectionSpec
  defaultSection : String
  journey : List JourneyStep
  quickActions : List (ActionSpec R)
  menu : List (MenuEntry (ActionSpec R))
  /-- The queries that are loaded beside the record. -/
  related : DataSpec

namespace DetailConfig

variable {R : Type}

/-- The section with an id. -/
def section? (c : DetailConfig R) (id : String) : Option SectionSpec := SectionSpec.find? c.sections id

/-- Whether a section with this id is declared. -/
def hasSection (c : DetailConfig R) (id : String) : Bool := (c.section? id).isSome

/-- All the actions: the quick ones and those of the menu. -/
def actions (c : DetailConfig R) : List (ActionSpec R) := c.quickActions ++ MenuEntry.actions c.menu

/-- The form in which a diagnostic shows a configuration. -/
def diagnostic (c : DetailConfig R) : String :=
  Text.fieldsText "DetailViewConfig"
    [("entity_type", Text.quoted c.entityType), ("entity_query", Text.quoted c.entityQuery),
     ("event_namespace", Text.quoted c.channel),
     ("sections", Text.listText (c.sections.map fun s => Text.quoted s.id)),
     ("default_section", Text.quoted c.defaultSection), ("journey_steps", toString c.journey.length),
     ("quick_actions_count", toString c.quickActions.length), ("menu_count", toString c.menu.length)]

end DetailConfig

/-- A detail screen in the making. -/
structure DetailDraft (R : Type) where
  entityType : String
  baseRoute : Option String := none
  channel : Option String := none
  entityQuery : Option String := none
  title : Option (R → String) := none
  statusTable : StatusTable := {}
  breadcrumbs : List Breadcrumb := []
  subtitleFields : List (ColumnSpec R) := []
  metrics : List (MetricSpec R) := []
  sections : List SectionSpec := []
  defaultSection : Option String := none
  journey : List JourneyStep := []
  quickActions : List (ActionSpec R) := []
  menu : List (MenuEntry (ActionSpec R)) := []
  related : List (String × QueryDescriptor) := []

namespace DetailDraft

variable {R : Type} [Record R]

/-- The name that configuration errors give to detail configurations. -/
def configName : String := "DetailViewConfig"

/-- The title that shows a field; nothing for a missing one. -/
def fieldTitle (key : String) (r : R) : String := ((Record.field r key).map Json.display).getD ""

/-- The section that is shown first. -/
def initialSection (first : SectionSpec) (sections : List SectionSpec) :
    Option String → Except ConfigError String
  | none => .ok first.id
  | some id => if SectionSpec.declares sections id then .ok id else .error (.unknownDefaultSection id)

/-- The configuration of a draft, or its first fault. -/
def build (d : DetailDraft R) : Except ConfigError (DetailConfig R) := do
  ConfigError.ensure (.missingField configName "entity_type") (d.entityType ≠ "")
  let baseRoute ← ConfigError.require configName "base_route" d.baseRoute
  let entityQuery ← ConfigError.require configName "entity_query" d.entityQuery
  let title ← ConfigError.require configName "title" d.title
  let first ← ConfigError.require configName "sections" d.sections.head?
  ensureUnique "section" (d.sections.map (·.id))
  ensureUnique "journey step" (d.journey.map (·.id))
  ensureUnique "related query" (d.related.map (·.1))
  ensureUnique "action" ((d.quickActions ++ MenuEntry.actions d.menu).map (·.id))
  ColumnSpec.checkAll d.subtitleFields
  let defaultSection ← initialSection first d.sections d.defaultSection
  return {
    entityType := d.entityType
    baseRoute
    channel := d.channel.getD d.entityType
    entityQuery
    title
    statusTable := d.statusTable
    breadcrumbs := d.breadcrumbs
    subtitleFields := d.subtitleFields
    metrics := d.metrics
    sections := d.sections
    defaultSection
    journey := d.journey
    quickActions := d.quickActions
    menu := d.menu
    related := .ofQueries d.related }

end DetailDraft

end RecordScreens
