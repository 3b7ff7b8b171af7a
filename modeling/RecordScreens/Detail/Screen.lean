import RecordScreens.Action.Dispatch
import RecordScreens.Detail.Config
import RecordScreens.Section.Navigator
import RecordScreens.View.Parts

/-!
# Detail screens

The screen of one record at work: it loads the record and what is related to it, shows
one section at a time, and hosts the dialogs about the record.
-/

namespace RecordScreens

/-- The screen of one record. -/
structure DetailScreen (R : Type) where
  config : DetailConfig R
  entityId : String
  /-- The number of the query for the record. -/
  entity : Nat
  /-- The number of the aggregate of the related queries. -/
  related : Nat
  sections : SectionNavigator
  /-- The number of the dialog host. -/
  host : Nat

namespace DetailScreen

variable {S R : Type} [Record R]

/-- A new screen with queries and a dialog host of its own. -/
def start (config : DetailConfig R) (entityId : String) (e : Engine S) : DetailScreen R × Engine S :=
  let (entity, binder) := e.binder.register (.record (.ofRecord R config.entityQuery entityId))
  let (related, binder) := binder.register (.aggregate (.ofQueries config.related.queries (some entityId)))
  let (host, bus) := e.bus.attach config.channel
  let sections := SectionNavigator.start config.sections config.defaultSection
  ({ config, entityId, entity, related, sections, host }, { e with binder, bus })

/-- Ends a screen, which held its queries; its host hears of no more dialogs. -/
def close (s : DetailScreen R) (e : Engine S) : Engine S :=
  { e with
    binder := (e.binder.release s.entity).release s.related
    bus := e.bus.unsubscribe (.host s.host) }

/-! ## Data -/

/-- What is known of the record. -/
def record (s : DetailScreen R) (e : Engine S) : QueryState R :=
  match e.binder.record? s.entity with
  | some q => q.state.bindData Record.decode
  | none => .pending

/-- What is known of the related queries. -/
def relatedResult (s : DetailScreen R) (e : Engine S) : AggregateResult :=
  ((e.binder.aggregate? s.related).map (·.result)).getD []

/-- Fetches the record and what is related to it at once. Only an error of the record itself counts. -/
def load [DataSource S] (s : DetailScreen R) : Routine (Engine S) (Except QueryError Unit) := do
  let (outcome, _) ← Engine.onBinder (Routine.par (Binder.fetchSingle s.entity) (Binder.fetchAggregate s.related))
  match outcome with
  | .failed e => return .error e
  | .applied | .stale => return .ok ()

/-- Fetches one related query again. -/
def retryRelated [DataSource S] (s : DetailScreen R) (name : String) : Routine (Engine S) Bool :=
  Engine.onBinder (Binder.refetchName s.related name)

/-! ## View -/

/-- The header, once the record is there. -/
def header (s : DetailScreen R) (e : Engine S) : Option DetailHeader := do
  let r ← (s.record e).data?
  return {
    title := s.config.title r
    status := (Record.status r).map s.config.statusTable.resolve
    subtitle := s.config.subtitleFields.map (Cell.ofColumn r)
    metrics := s.config.metrics.map (Cell.ofMetric r) }

/-- The stages of the record's life and how many are done, once its status is there. -/
def journey (s : DetailScreen R) (e : Engine S) : Option (List JourneyItem × Nat) := do
  let status ← (s.record e).data?.bind Record.status
  return (RecordScreens.journey s.config.journey status, journeyProgress s.config.journey status)

/-- The count beside the label of a section: how many items its related query has. -/
def sectionCount (s : DetailScreen R) (e : Engine S) (id : String) : Option Nat := do
  let found ← s.config.section? id
  if found.showCount then
    return (← ((s.relatedResult e).data? found.component).bind Json.asArray?).length
  else none

/-- The buttons of the record, once it is there. -/
def quickActions (s : DetailScreen R) (e : Engine S) : Except Panic (List ActionButton) :=
  match (s.record e).data? with
  | some r => ActionButton.ofActions s.config.quickActions r
  | none => .ok []

/-- The menu of the record, once it is there. -/
def menu (s : DetailScreen R) (e : Engine S) : Except Panic MenuView :=
  match (s.record e).data? with
  | some r => MenuView.ofMenu s.config.menu r
  | none => .ok []

/-! ## Actions -/

/-- Clicks a quick action or an action of the menu. -/
def runAction [DataSource S] (s : DetailScreen R) (actionId : String) :
    Routine (Engine S) (Except Halt ActionOutcome) :=
  match s.config.actions.find? (·.id == actionId) with
  | none => return .ok (.failed (.unknownAction actionId))
  | some action =>
    Routine.act id fun e =>
      match (s.record e).data? with
      | some r => Dispatch.dispatch action r
      | none => return .ok (.failed (.notLoaded s.entityId))

end DetailScreen

end RecordScreens
