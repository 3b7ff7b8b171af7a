import RecordScreens.Action.Menu
import RecordScreens.Column.Metric
import RecordScreens.Column.Spec
import RecordScreens.Section.Journey
import RecordScreens.Status.Table

/-!
# Parts of a view

What a renderer is handed: plain texts and buttons, with everything looked up.
-/

namespace RecordScreens

/-! ## Cells -/

/-- A text with a label. -/
structure Cell where
  key : String
  label : String
  text : String
  deriving DecidableEq, Repr

namespace Cell

variable {R : Type}

def encode (c : Cell) : Json :=
  Json.ofMembers [("key", .string c.key), ("label", .string c.label), ("text", .string c.text)]

/-- The cell of a column. -/
def ofColumn [Record R] (r : R) (column : ColumnSpec R) : Cell :=
  { key := column.key, label := column.label, text := column.display r }

/-- The cell of a metric. -/
def ofMetric (r : R) (metric : MetricSpec R) : Cell :=
  { key := metric.key, label := metric.label, text := metric.display r }

end Cell

/-! ## Buttons -/

/-- An action as it is drawn. -/
structure ActionButton where
  id : String
  label : String
  icon : Option String
  variant : ActionVariant
  deriving DecidableEq, Repr

namespace ActionButton

variable {R : Type}

/-- The members of a written button. -/
def members (b : ActionButton) : List (String × Json) :=
  [("id", .string b.id), ("label", .string b.label)]
  ++ Json.optional "icon" (b.icon.map .string)
  ++ [("variant", b.variant.encode)]

def encode (b : ActionButton) : Json := Json.ofMembers b.members

/-- The button of an action. -/
def ofAction (a : ActionSpec R) : ActionButton :=
  { id := a.id, label := a.label, icon := a.icon, variant := a.variant }

/-- The buttons that are drawn for a record. -/
def ofActions (actions : List (ActionSpec R)) (r : R) : Except Panic (List ActionButton) := do
  return (← ActionSpec.visibleActions actions r).map ofAction

end ActionButton

/-- A menu as it is drawn. -/
abbrev MenuView := List (MenuEntry ActionButton)

namespace MenuView

variable {R : Type}

/-- The menu that is drawn for a record. -/
def ofMenu (menu : List (MenuEntry (ActionSpec R))) (r : R) : Except Panic MenuView := do
  return (← MenuEntry.visible menu r).map fun
    | .action a => .action (.ofAction a)
    | .separator => .separator

def encodeEntry : MenuEntry ActionButton → Json
  | .action button => Json.ofMembers (("type", .string "action") :: button.members)
  | .separator => Json.ofMembers [("type", .string "separator")]

end MenuView

/-! ## Rows and headers -/

/-- A record as a row of a list. -/
structure RenderedRow where
  id : String
  detailPath : String
  cells : List Cell
  status : Option ResolvedStatus
  actions : List ActionButton
  deriving DecidableEq, Repr

def RenderedRow.encode (r : RenderedRow) : Json :=
  Json.ofMembers <|
    [("id", .string r.id), ("detailPath", .string r.detailPath), ("cells", .array (r.cells.map (·.encode)))]
    ++ Json.optional "status" (r.status.map (·.encode))
    ++ [("actions", .array (r.actions.map (·.encode)))]

/-- The header of a detail screen. -/
structure DetailHeader where
  title : String
  status : Option ResolvedStatus
  subtitle : List Cell
  metrics : List Cell
  deriving DecidableEq, Repr

def DetailHeader.encode (h : DetailHeader) : Json :=
  Json.ofMembers <|
    [("title", .string h.title)]
    ++ Json.optional "status" (h.status.map (·.encode))
    ++ [("subtitle", .array (h.subtitle.map (·.encode))), ("metrics", .array (h.metrics.map (·.encode)))]

end RecordScreens
