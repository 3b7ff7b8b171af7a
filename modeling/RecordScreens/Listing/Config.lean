import RecordScreens.Action.Spec
import RecordScreens.Chrome.Links
import RecordScreens.Chrome.Stats
import RecordScreens.Column.Spec
import RecordScreens.Filter.Spec
import RecordScreens.Listing.Params
import RecordScreens.Status.Table
import RecordScreens.Text.Blank
import RecordScreens.Text.Lowercase

/-!
# List configurations

What a screen that lists records is made of. A draft becomes a configuration only if
nothing is missing, no two parts share a name, and every reference leads somewhere.
-/

namespace RecordScreens

/-- How many rows a page has when nothing else is said. -/
def defaultPageSize : Nat := 25

/-- A list screen that is ready to be shown. -/
structure ListConfig (R : Type) where
  entityType : String
  entityName : EntityName
  /-- The route that the paths of the records hang off. -/
  baseRoute : String
  title : String
  description : Option String
  icon : Option String
  primaryAction : Option LinkAction
  statsCards : List StatsCard
  /-- The query that feeds the stats cards. -/
  statsQuery : Option String
  filters : List FilterSpec
  columns : List (ColumnSpec R)
  statusTable : StatusTable
  /-- The query that is fetched page by page. -/
  listQuery : String
  pageSize : Nat
  defaultSort : Option (String × SortOrder)
  emptyState : EmptyState
  /-- The actions of each row. -/
  quickActions : List (ActionSpec R)

namespace ListConfig

variable {R : Type}

/-- The filter with a key. -/
def filter? (c : ListConfig R) (key : String) : Option FilterSpec := c.filters.find? (·.key == key)

/-- The column with a key. -/
def column? (c : ListConfig R) (key : String) : Option (ColumnSpec R) := ColumnSpec.find? c.columns key

/-- The path of a record. -/
def detailPath [Record R] (c : ListConfig R) (r : R) : String :=
  Text.trimEndOf '/' c.baseRoute ++ "/" ++ Record.id r

/-- The form in which a diagnostic shows a configuration. -/
def diagnostic (c : ListConfig R) : String :=
  Text.fieldsText "ListViewConfig"
    [("entity_type", Text.quoted c.entityType), ("title", Text.quoted c.title),
     ("list_query", Text.quoted c.listQuery), ("page_size", toString c.pageSize),
     ("filters_count", toString c.filters.length), ("columns_count", toString c.columns.length),
     ("quick_actions_count", toString c.quickActions.length)]

end ListConfig

/-- A list screen in the making. -/
structure ListDraft (R : Type) where
  entityType : String
  entityName : Option EntityName := none
  baseRoute : Option String := none
  title : Option String := none
  description : Option String := none
  icon : Option String := none
  primaryAction : Option LinkAction := none
  statsCards : List StatsCard := []
  statsQuery : Option String := none
  filters : List FilterSpec := []
  columns : List (ColumnSpec R) := []
  statusTable : StatusTable := {}
  listQuery : Option String := none
  pageSize : Nat := defaultPageSize
  defaultSort : Option (String × SortOrder) := none
  emptyState : Option EmptyState := none
  quickActions : List (ActionSpec R) := []

namespace ListDraft

variable {R : Type} [Record R]

/-- The name that configuration errors give to list configurations. -/
def configName : String := "ListViewConfig"

/-- The configuration of a draft, or its first fault. -/
def build (d : ListDraft R) : Except ConfigError (ListConfig R) := do
  ConfigError.ensure (.missingField configName "entity_type") (d.entityType ≠ "")
  let title ← ConfigError.require configName "title" d.title
  let baseRoute ← ConfigError.require configName "base_route" d.baseRoute
  let listQuery ← ConfigError.require configName "list_query" d.listQuery
  ConfigError.ensure (.missingField configName "columns") (!d.columns.isEmpty)
  ConfigError.ensure (.missingField configName "page_size") (d.pageSize ≠ 0)
  FilterSpec.checkAll d.filters
  ColumnSpec.checkAll d.columns
  ensureUnique "action" (d.quickActions.map (·.id))
  if let some (key, _) := d.defaultSort then
    ConfigError.ensure (.unknownField "sort key" key) (ColumnSpec.sortableBy d.columns key)
  let entityName := d.entityName.getD { singular := d.entityType, plural := title }
  return {
    entityType := d.entityType
    entityName
    baseRoute
    title
    description := d.description
    icon := d.icon
    primaryAction := d.primaryAction
    statsCards := d.statsCards
    statsQuery := d.statsQuery
    filters := d.filters
    columns := d.columns
    statusTable := d.statusTable
    listQuery
    pageSize := d.pageSize
    defaultSort := d.defaultSort
    emptyState := d.emptyState.getD { title := "No " ++ Text.lowercase entityName.plural ++ " found" }
    quickActions := d.quickActions }

end ListDraft

end RecordScreens
