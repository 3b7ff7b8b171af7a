import RecordScreens.Action.Dispatch
import RecordScreens.Filter.Values
import RecordScreens.Listing.Config
import RecordScreens.View.Parts

/-!
# List screens

A list screen at work: what the user entered, the page that it asks for, and the rows,
buttons and texts that come of the answer.
-/

namespace RecordScreens

/-- A list screen and what the user entered. -/
structure ListScreen (R : Type) where
  config : ListConfig R
  /-- The number of the list query. -/
  query : Nat
  filters : FilterValues := []
  sort : Option (String × SortOrder)
  page : Nat := 0

namespace ListScreen

variable {S R : Type}

/-! ## Inputs -/

/-- Enters a value for a filter, and goes to the first page. -/
def setFilter (key : String) (value : FilterValue) (s : ListScreen R) : ListScreen R :=
  { s with filters := Dict.insert s.filters key value, page := 0 }

/-- Takes back all that was entered for filters, and goes to the first page. -/
def clearFilters (s : ListScreen R) : ListScreen R := { s with filters := [], page := 0 }

/-- Sorts by a column that can be sorted by, and goes to the first page. -/
def setSort (key : String) (order : SortOrder) (s : ListScreen R) : ListScreen R :=
  if (s.config.column? key).any (·.sortable) then { s with sort := some (key, order), page := 0 } else s

/-- Goes to a page. -/
def setPage (page : Nat) (s : ListScreen R) : ListScreen R := { s with page }

/-- Whether a filter narrows the list. -/
def hasActiveFilters (s : ListScreen R) : Bool := FilterSpec.anyActive s.config.filters s.filters

/-- The parameters of the filters. -/
def filterParams (s : ListScreen R) : Json.Object := FilterSpec.buildParams s.config.filters s.filters

/-- What the screen asks for. Where its page begins is meant to fit in a word of 64 bits. -/
def params (s : ListScreen R) : ListParams :=
  let p := ListParams.page { filters := s.filterParams } s.config.pageSize (s.page * s.config.pageSize)
  match s.sort with
  | some (key, order) => p.sort key order
  | none => p

/-! ## Data -/

/-- A new screen with a query of its own. -/
def start [Record R] (config : ListConfig R) (e : Engine S) : ListScreen R × Engine S :=
  let (query, binder) := e.binder.register (.list (.ofRecords R config.listQuery))
  ({ config, query, sort := config.defaultSort }, { e with binder })

/-- Ends a screen, which held its query. -/
def close (s : ListScreen R) (e : Engine S) : Engine S := { e with binder := e.binder.release s.query }

/-- What is known of the page. -/
def state [Record R] (s : ListScreen R) (e : Engine S) : QueryState (Page R) :=
  match e.binder.list? s.query with
  | some q => q.state.mapData (·.filterMap Record.decode)
  | none => .pending

/-- Fetches what the screen asks for. -/
def refresh [DataSource S] (s : ListScreen R) : Routine (Engine S) FetchOutcome :=
  Engine.onBinder (Binder.fetchList s.query s.params)

/-- The texts of the stats cards with their labels. -/
def stats [DataSource S] (s : ListScreen R) : Routine (Engine S) (Except QueryError (List (String × String))) :=
  match s.config.statsQuery with
  | none => return .ok []
  | some key => do
    let answer ← Engine.onBinder (Binder.query key (.object s.filterParams))
    return answer.map fun stats => s.config.statsCards.map fun card => (card.label, card.display stats)

/-! ## View -/

variable [Record R]

/-- A record as a row. -/
def row (s : ListScreen R) (r : R) : Except Panic RenderedRow := do
  return {
    id := Record.id r
    detailPath := s.config.detailPath r
    cells := s.config.columns.map (Cell.ofColumn r)
    status := (Record.status r).map s.config.statusTable.resolve
    actions := ← ActionButton.ofActions s.config.quickActions r }

/-- The rows of the page. -/
def rows (s : ListScreen R) (e : Engine S) : Except Panic (List RenderedRow) :=
  match (s.state e).data? with
  | some page => page.items.mapM s.row
  | none => .ok []

/-- The title and the description that stand in for the rows of an empty page. -/
def emptyState (s : ListScreen R) (e : Engine S) : Option (String × String) := do
  let page ← (s.state e).data?
  if page.isEmpty then
    some (s.config.emptyState.title, s.config.emptyState.description s.hasActiveFilters)
  else none

/-! ## Actions -/

/-- Clicks an action in the row of a record. -/
def runAction [DataSource S] (s : ListScreen R) (actionId recordId : String) :
    Routine (Engine S) (Except Halt ActionOutcome) :=
  match s.config.quickActions.find? (·.id == actionId) with
  | none => return .ok (.failed (.unknownAction actionId))
  | some action =>
    Routine.act id fun e =>
      match (s.state e).data?.bind fun page => page.items.find? fun r => Record.id r == recordId with
      | some r => Dispatch.dispatch action r
      | none => return .ok (.failed (.notLoaded recordId))

end ListScreen

end RecordScreens
