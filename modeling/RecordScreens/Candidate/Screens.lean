import RecordScreens.Board.Mapping
import RecordScreens.Candidate.Basic
import RecordScreens.Detail.Config
import RecordScreens.Listing.Config

/-!
# Candidate screens

The list of candidates, the screen of one candidate, and the columns of the pipeline
board.
-/

namespace RecordScreens.Candidate

-- ---------------------------------------------------------------------------
-- Names
-- ---------------------------------------------------------------------------

def listQuery : String := "candidates.list"

def getQuery : String := "candidates.getById"

def statsQuery : String := "candidates.stats"

def submissionsQuery : String := "candidates.submissions"

/-- The mutation that changes the status of a candidate. -/
def statusMutation : String := "candidates.updateStatus"

/-- The channel of the dialogs about candidates. -/
def channel : String := "candidate"

def baseRoute : String := "/recruiting/candidates"

/-- How the statuses of candidates are shown. -/
def statusTable : StatusTable :=
  .ofList
    [("active", { label := "Active", color := "green", icon := some "check-circle" }),
     ("screening", { label := "Screening", color := "blue", icon := some "search" }),
     ("interviewing", { label := "Interviewing", color := "purple", icon := some "calendar" }),
     ("placed", { label := "Placed", color := "gold", icon := some "award" }),
     ("bench", { label := "On Bench", color := "amber", icon := some "clock" }),
     ("inactive", { label := "Inactive", color := "charcoal", icon := some "x-circle" })]

-- ---------------------------------------------------------------------------
-- Cells
-- ---------------------------------------------------------------------------

/-- A natural number between two texts, or the placeholder. -/
def counted (before after : String) (v : Json) : String :=
  match v.asNat? with
  | some n => before ++ toString n ++ after
  | none => placeholder

/-- An hourly rate. -/
def rateText : Json → String := counted "$" "/hr"

/-- A mark for candidates on the hotlist. -/
def hotlistMark (v : Json) : String := if v = .bool true then "★" else placeholder

-- ---------------------------------------------------------------------------
-- List
-- ---------------------------------------------------------------------------

def addLink : LinkAction := { label := "Add Candidate", href := baseRoute ++ "/new" }

/-- Asks for the dialog that submits a candidate to a job. -/
def submitAction : ActionSpec Candidate :=
  ActionSpec.visibleForStatuses
    { id := "submit-to-job", label := "Submit to Job", icon := some "briefcase",
      target := .openDialog channel "submitToJob" }
    ["active", "bench"]

def filters : List FilterSpec :=
  [{ key := "search", kind := .search, label := "Candidates",
     placeholder := some "Search by name, email, title..." },
   { key := "status", kind := .select, label := "Status", options := statusTable.filterOptions "All Status" },
   { key := "source", kind := .select, label := "Source",
     options := [⟨"all", "All Sources"⟩, ⟨"linkedin", "LinkedIn"⟩, ⟨"referral", "Referral"⟩,
       ⟨"job_board", "Job Board"⟩] },
   { key := "is_on_hotlist", kind := .toggle, label := "Hotlist Only" }]

def columns : List (ColumnSpec Candidate) :=
  [{ key := "last_name", label := "Name", sortable := true, render := some fun _ c => c.fullName },
   { key := "title", label := "Title", sortable := true },
   { key := "location", label := "Location", sortable := true },
   { key := "status", label := "Status", kind := .status, sortable := true },
   { key := "experience_years", label := "Exp", kind := .number, align := .right, sortable := true,
     render := some fun v _ => counted "" " yrs" v },
   { key := "hourly_rate", label := "Rate", kind := .currency, align := .right,
     render := some fun v _ => rateText v },
   { key := "is_on_hotlist", label := "Hotlist", kind := .boolean, align := .center,
     render := some fun v _ => hotlistMark v }]

/-- The list of candidates with pages of a size. -/
def listDraft (pageSize : Nat) : ListDraft Candidate where
  entityType := "candidate"
  title := some "Candidates"
  description := some "Search and manage your candidate database"
  icon := some "user"
  baseRoute := some baseRoute
  primaryAction := some addLink
  listQuery := some listQuery
  pageSize := pageSize
  statsQuery := some statsQuery
  statsCards :=
    [{ key := "total", label := "Total Candidates" },
     { key := "active", label := "Active", color := some "green" },
     { key := "placementRate", label := "Placement Rate", format := .percent }]
  filters := filters
  columns := columns
  statusTable := statusTable
  defaultSort := some ("last_name", .asc)
  emptyState := some {
    title := "No candidates found"
    unfilteredDescription := "Add your first candidate to start building your talent database"
    action := some addLink }
  quickActions :=
    [{ id := "view", label := "View", variant := .ghost, target := .navigate (baseRoute ++ "/\x7bid\x7d") },
     submitAction]

def listConfig (pageSize : Nat) : Except ConfigError (ListConfig Candidate) := (listDraft pageSize).build

-- ---------------------------------------------------------------------------
-- Detail
-- ---------------------------------------------------------------------------

/-- The title of the screen of a candidate. -/
def screenTitle (c : Candidate) : String := if c.fullName = "" then "Unknown Candidate" else c.fullName

def metrics : List (MetricSpec Candidate) :=
  [{ key := "experience", label := "Years Exp", icon := some "briefcase", tooltip := some "Years of experience",
     value := fun c => .ofNat (c.experienceYears.getD 0) },
   { key := "rate", label := "Desired Rate", tooltip := some "Desired hourly rate",
     value := fun c => .orNull (c.hourlyRate.map .ofNat), format := some rateText },
   { key := "hotlist", label := "Hotlist", value := fun c => .bool c.isOnHotlist }]

def journeySteps : List JourneyStep :=
  [{ id := "sourced", label := "Sourced", activeStatuses := ["active"],
     completedStatuses := ["screening", "interviewing", "placed", "bench"] },
   { id := "screening", label := "Screening", activeStatuses := ["screening"],
     completedStatuses := ["interviewing", "placed", "bench"] },
   { id := "interviewing", label := "Interviewing", activeStatuses := ["interviewing"],
     completedStatuses := ["placed", "bench"] },
   { id := "placed", label := "Placed", activeStatuses := ["placed"] }]

def quickActions : List (ActionSpec Candidate) :=
  [submitAction,
   { id := "add-to-hotlist", label := "Add to Hotlist", icon := some "star", variant := .outline,
     target := .openDialog channel "addToHotlist", visible := some fun c => .ok !c.isOnHotlist },
   ActionSpec.visibleForStatuses
     { id := "start-screening", label := "Start Screening", variant := .outline,
       target := .navigate (baseRoute ++ "/\x7bid\x7d/screening") }
     ["active"]]

def menu : List (MenuEntry (ActionSpec Candidate)) :=
  [.action { id := "edit", label := "Edit Candidate", target := .navigate (baseRoute ++ "/\x7bid\x7d/edit") },
   .action { id := "log-activity", label := "Log Activity", target := .openDialog channel "logActivity" },
   .separator,
   .action { id := "mark-inactive", label := "Mark as Inactive", variant := .destructive,
             target := .mutate statusMutation [("status", .string "inactive")] [listQuery, getQuery],
             visible := some fun c => .ok (c.status != "inactive") }]

/-- The screen of one candidate. -/
def detailDraft : DetailDraft Candidate where
  entityType := "candidate"
  baseRoute := some baseRoute
  channel := some channel
  entityQuery := some getQuery
  title := some screenTitle
  statusTable := statusTable
  breadcrumbs := [⟨"Recruiting", "/recruiting"⟩, ⟨"Candidates", baseRoute⟩]
  subtitleFields :=
    [{ key := "title", label := "Title" }, { key := "location", label := "Location", icon := some "map-pin" },
     { key := "email", label := "Email", icon := some "mail" }]
  metrics := metrics
  sections :=
    [{ id := "overview", label := "Overview", icon := some "user" },
     { id := "submissions", label := "Submissions", icon := some "send", showCount := true },
     { id := "activities", label := "Activities", icon := some "activity" }]
  defaultSection := some "overview"
  journey := journeySteps
  quickActions := quickActions
  menu := menu
  related :=
    [("submissions", { queryKey := submissionsQuery, params := [("candidate_id", .string entityIdPlaceholder)] })]

def detailConfig : Except ConfigError (DetailConfig Candidate) := detailDraft.build

-- ---------------------------------------------------------------------------
-- Board
-- ---------------------------------------------------------------------------

/-- The columns of the pipeline. -/
def boardDraft : MappingDraft where
  claims :=
    [⟨{ id := "sourced", title := "Sourced", color := some "green" }, ["active"]⟩,
     ⟨{ id := "screening", title := "Screening", color := some "blue" }, ["screening"]⟩,
     ⟨{ id := "interviewing", title := "Interviewing", color := some "purple" }, ["interviewing"]⟩,
     ⟨{ id := "placed", title := "Placed", color := some "gold" }, ["placed", "bench"]⟩]
  fallback := some "sourced"
  hidden := ["inactive"]

def boardMapping : Except ConfigError ColumnMapping := boardDraft.build

end RecordScreens.Candidate
