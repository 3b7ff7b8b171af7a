import RecordScreens.Board.Basic
import RecordScreens.Candidate.Dataset
import RecordScreens.CommandLine.Command
import RecordScreens.CommandLine.Outcome
import RecordScreens.Detail.Screen
import RecordScreens.Listing.Screen
import RecordScreens.Settings
import RecordScreens.View.Layout

/-!
# Runs

What the commands do: each builds its screen over a store of candidates, lets it fetch
what it needs, and prints it.
-/

namespace RecordScreens

/-- A run of a command on an engine over candidates. -/
abbrev CandidateRun := Routine (Engine Store) RunOutcome

/-- The outcome of code that may not come back. -/
def RunOutcome.ofHalt : Except Halt RunOutcome → RunOutcome
  | .ok outcome => outcome
  | .error h => .crashed h

namespace Command

-- ---------------------------------------------------------------------------
-- List
-- ---------------------------------------------------------------------------

/-- Enters the options into a screen. -/
def enter (o : ListOptions) (s : ListScreen Candidate) : ListScreen Candidate :=
  let text (key : String) (value : Option String) (s : ListScreen Candidate) : ListScreen Candidate :=
    match value with
    | some v => s.setFilter key (.text v)
    | none => s
  let s := text "search" o.search (text "status" o.status s)
  let s := if o.hot then s.setFilter "is_on_hotlist" (.flag true) else s
  let s := match o.sort with
    | some key => s.setSort key (if o.descending then .desc else .asc)
    | none => s
  s.setPage o.page

/-- The lines above a list. -/
def listHead (c : ListConfig Candidate) (stats : Except QueryError (List (String × String))) : List String :=
  let cards := match stats with
    | .ok cards => [String.intercalate " | " (cards.map fun card => card.1 ++ ": " ++ card.2), ""]
    | .error _ => []
  [c.title] ++ c.description.toList ++ cards

/-- The line under a page. -/
def pageLine (p : Page Candidate) : String :=
  "Showing " ++ toString (p.offset + 1) ++ "-" ++ toString (p.offset + p.size) ++ " of " ++ toString p.total
    ++ if p.hasMore then " (more)" else ""

/-- The lines of a page with its rows. -/
def pageLines (s : ListScreen Candidate) (e : Engine Store) (p : Page Candidate) : Except Panic (List String) :=
  match s.emptyState e with
  | some (title, description) => .ok [title, description]
  | none => do return [← Layout.listRows (← s.rows e), "", pageLine p]

/-- What is printed of a list screen that has fetched. -/
def listOutcome (s : ListScreen Candidate) (head : List String) (e : Engine Store) : RunOutcome :=
  match s.state e with
  | .pending => .printed (head ++ ["Loading..."])
  | .error error => { RunOutcome.printed head with fault := some { message := error.message } }
  | .data p => match pageLines s e p with
    | .ok lines => .printed (head ++ lines)
    | .error p => .crashed (.panic p) head

def runList (o : ListOptions) (c : ListConfig Candidate) : CandidateRun := do
  let s ← Routine.step (ListScreen.start c)
  let s := enter o s
  let stats ← s.stats
  let _ ← s.refresh
  Routine.read (listOutcome s (listHead c stats))

-- ---------------------------------------------------------------------------
-- Detail
-- ---------------------------------------------------------------------------

/-- A section, with a mark at the one that is shown. -/
def sectionLine (s : DetailScreen Candidate) (e : Engine Store) (spec : SectionSpec) : String :=
  (if spec.id = s.sections.current then "* " else "  ") ++ spec.label
    ++ ((s.sectionCount e spec.id).map fun n => " (" ++ toString n ++ ")").getD ""

/-- The lines of a screen whose record is there. -/
def detailLines (s : DetailScreen Candidate) (header : DetailHeader) (e : Engine Store) :
    Except Panic (List String) := do
  let crumbs := String.intercalate " / " (s.config.breadcrumbs.map (·.label))
  let journey := match s.journey e with
    | some (steps, completed) => [Layout.journey steps completed, ""]
    | none => []
  let failed := (s.relatedResult e).failed.map fun name => "! " ++ name ++ " failed to load"
  return [crumbs ++ " / " ++ header.title, "", Layout.header header, ""] ++ journey
    ++ s.sections.sections.map (sectionLine s e) ++ failed
    ++ ["", Layout.actions (← s.quickActions e) (← s.menu e)]

/-- What is printed of a detail screen that has loaded. -/
def detailOutcome (s : DetailScreen Candidate) (e : Engine Store) : RunOutcome :=
  match s.header e with
  | none => .failed ("candidate '" ++ s.entityId ++ "' did not load")
  | some header => .ofHalt (((detailLines s header e).map .printed).mapError .panic)

/-- Goes on with a screen that has loaded. -/
def loaded (s : DetailScreen Candidate) (next : CandidateRun) : CandidateRun := do
  match ← s.load with
  | .error e => return .failed "loading candidate" [e.message]
  | .ok () => next

def runDetail (id : String) (openSection : Option String) (c : DetailConfig Candidate) : CandidateRun := do
  let s ← Routine.step (DetailScreen.start c id)
  match openSection with
  | none => loaded s (Routine.read (detailOutcome s))
  | some wanted =>
    match s.sections.set wanted with
    | (true, sections) => loaded s (Routine.read (detailOutcome { s with sections }))
    | (false, _) => return .failed ("unknown section '" ++ wanted ++ "'")

-- ---------------------------------------------------------------------------
-- Actions
-- ---------------------------------------------------------------------------

/-- What became of a published request, in words. -/
def deliveryText : Delivery → String
  | .delivered n => "Delivered(" ++ toString n ++ ")"
  | .dropped => "Dropped"

/-- What is printed of a dialog that was asked for on a channel, when a host shows one. -/
def dialogLine (channel : String) (delivery : Delivery) : Option DialogRequest → String
  | some request => "Opened dialog '" ++ request.dialogId ++ "' for " ++ request.entityId
  | none => "Dialog request on '" ++ channel ++ "' was " ++ deliveryText delivery

/-- What is printed of a click. -/
def clickOutcome (actionId : String) (shown : Option DialogRequest) : ActionOutcome → RunOutcome
  | .navigated path => .printed ["Navigated to " ++ path]
  | .mutated key result => .printed ["Ran " ++ key ++ ": " ++ result.text]
  | .dialogRequested channel delivery => .printed [dialogLine channel delivery shown]
  | .hidden => .failed ("action '" ++ actionId ++ "' is not available")
  | .failed e => .failed ("action '" ++ actionId ++ "' failed: " ++ e.message)

def runAction (actionId id : String) (c : DetailConfig Candidate) : CandidateRun := do
  let s ← Routine.step (DetailScreen.start c id)
  loaded s do
    let clicked ← s.runAction actionId
    Routine.read fun e => .ofHalt (clicked.map (clickOutcome actionId (e.bus.current s.host)))

-- ---------------------------------------------------------------------------
-- Board
-- ---------------------------------------------------------------------------

/-- The columns with the names of the candidates in them. -/
def boardLines (b : Board Candidate) : List String :=
  b.columns.map fun view =>
    view.column.title ++ " (" ++ toString view.records.length ++ "): "
      ++ String.intercalate ", " (view.records.map (·.fullName))

/-- What is printed of a commit that has settled. -/
def settledLines : SettleOutcome → List String
  | .committed id status => ["Moved " ++ id ++ " to " ++ status, ""]
  | .reverted id _ e => ["Move of " ++ id ++ " failed: " ++ e.message, ""]
  | .superseded _ => []

/-- Drops the card that is dragged, and commits the change. -/
def drop (b : Board Candidate) (column : String) : CandidateRun := do
  match b.dragEnd with
  | (.commit commit, b) => do
    let result ← Engine.onBinder commit.run
    let (settled, b) := b.settle result
    return .printed (settledLines settled ++ boardLines b)
  | (.unchanged id, b) => return .printed ([id ++ " is already in " ++ column, ""] ++ boardLines b)
  | (.idle, b) | (.click _, b) => return .printed (boardLines b)

/-- Moves a card, and prints the board. -/
def moveCard (b : Board Candidate) (move : CardMove) : CandidateRun :=
  match b.beginDrag move.recordId with
  | (false, _) => return .failed ("no card '" ++ move.recordId ++ "' on the board")
  | (true, b) =>
    match b.dragOver move.column with
    | (false, _) => return .failed ("no column '" ++ move.column ++ "'")
    | (true, b) => drop b move.column

def runBoard (settings : Settings) (mapping : ColumnMapping) (move : Option CardMove) : CandidateRun := do
  let query ← Engine.onBinder (Routine.step (Binder.register (.list (.ofRecords Candidate Candidate.listQuery))))
  let _ ← Engine.onBinder (Binder.fetchList query {})
  Routine.act id fun e =>
    match ((e.binder.list? query).map (·.state)).getD .pending with
    | .error error => return .failed error.message
    | state =>
      let b : Board Candidate :=
        { mapping
          commitKey := Candidate.statusMutation
          invalidates := [Candidate.listQuery]
          activationDistance := settings.activationDistance
          records := (state.data?.map (·.items.filterMap Candidate.decode)).getD [] }
      match move with
      | some move => moveCard b move
      | none => return .printed (boardLines b)

-- ---------------------------------------------------------------------------
-- Commands
-- ---------------------------------------------------------------------------

/-- Goes on with a configuration that was built. -/
def withConfig {α : Type} (built : Except ConfigError α) (next : α → CandidateRun) : CandidateRun :=
  match built with
  | .ok c => next c
  | .error e => return .failed e.message

/-- What a command does. -/
def run (settings : Settings) : Command → CandidateRun
  | .list options => withConfig (Candidate.listConfig settings.pageSize) (runList options)
  | .detail id openSection => withConfig Candidate.detailConfig (runDetail id openSection)
  | .action actionId id => withConfig Candidate.detailConfig (runAction actionId id)
  | .board move => withConfig Candidate.boardMapping fun mapping => runBoard settings mapping move

end Command

-- ---------------------------------------------------------------------------
-- Invocations
-- ---------------------------------------------------------------------------

/-- What a run finds in files. -/
structure Files where
  content : String → FileContent
  /-- The settings of the user for when the arguments name no others. -/
  userSettings : FileContent := .missing

namespace Invocation

/-- The settings of a run. Settings of the user that are not well formed do not count. -/
def settingsOf (files : Files) (i : Invocation) : Except RunFault Settings :=
  match i.settings with
  | none => .ok ((Settings.ofFile files.userSettings).toOption.getD {})
  | some path => (Settings.ofFile (files.content path)).mapError fun e => { message := e.message }

/-- What is wrong with the file of candidates, in words. -/
def datasetFault (path : String) : Candidate.DatasetFault → RunFault
  | .malformed => { message := "parsing " ++ path, causes := ["The text is no array of values"] }
  | .notACandidate index =>
    { message := "record " ++ toString index ++ " in " ++ path ++ " is not a candidate"
      causes := ["The value does not have the expected fields"] }

/-- The candidates of a run. -/
def candidatesOf (files : Files) (i : Invocation) : Except RunFault (List Json) :=
  match i.data with
  | none => .ok (Candidate.samples.map Candidate.encode)
  | some path =>
    match files.content path with
    | .text content => (Candidate.valuesOfText content).mapError (datasetFault path)
    | .missing => .error { message := "reading " ++ path, causes := ["No such file or directory (os error 2)"] }
    | .unreadable => .error { message := "reading " ++ path, causes := ["The file holds no text"] }

/-- The engine of a run. -/
def engine (settings : Settings) (candidates : List Json) : Engine Store where
  binder := { source := Candidate.store candidates, timeout := settings.timeoutMillis }

/-- Runs a command. -/
def run (files : Files) (i : Invocation) : RunOutcome :=
  match i.settingsOf files, i.candidatesOf files with
  | .error fault, _ | .ok _, .error fault => { fault := some fault }
  | .ok settings, .ok candidates => ((i.command.run settings).run (engine settings candidates)).1

end Invocation

end RecordScreens
