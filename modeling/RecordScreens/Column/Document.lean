import RecordScreens.Action.Template
import RecordScreens.Column.Metric
import RecordScreens.Column.Spec

/-!
# Columns and metrics in documents

Columns and metrics as they are written by hand. A renderer is a template for the record,
or texts that stand before and after the value.
-/

namespace RecordScreens

/-- Texts that stand before and after another. -/
structure Surround where
  before : String := ""
  after : String := ""

namespace Surround

def ofDocument? : Decoder Surround := fun v => do
  let fs ← Decoder.fields ["prefix", "suffix"] v
  return { before := ← fs.withDefault "prefix" .string "", after := ← fs.withDefault "suffix" .string "" }

/-- The text of a value with the texts around it. -/
def apply (s : Surround) (v : Json) : String := s.before ++ v.display ++ s.after

end Surround

variable {R : Type} [Record R]

/-- What makes the text of a cell. -/
def rendererOfDocument? : Decoder (Json → R → String) := fun v =>
  match v.get? "template" with
  | some template => (template.asString?).map fun t => fun _ r => expandPath t r
  | none => (Surround.ofDocument? v).map fun s => fun value _ => s.apply value

def ColumnSpec.ofDocument? : Decoder (ColumnSpec R) := fun v => do
  let fs ← Decoder.fields ["key", "label", "type", "icon", "sortable", "align", "render"] v
  return {
    key := ← fs.required "key" .string
    label := ← fs.required "label" .string
    kind := ← fs.withDefault "type" ColumnKind.decode .text
    icon := ← fs.optional "icon" .string
    sortable := ← fs.withDefault "sortable" .bool false
    align := ← fs.withDefault "align" Align.decode .left
    render := ← fs.optional "render" rendererOfDocument? }

/-- What a metric shows: a field of the record, or always the same. -/
def metricValueOfDocument? : Decoder (R → Json) := fun v =>
  match v.get? "field" with
  | some field => (field.asString?).map fun key => fun r => Record.valueOf r key
  | none => (v.get? "const").map fun value => fun _ => value

def MetricSpec.ofDocument? : Decoder (MetricSpec R) := fun v => do
  let fs ← Decoder.fields ["key", "label", "icon", "tooltip", "value", "format"] v
  return {
    key := ← fs.required "key" .string
    label := ← fs.required "label" .string
    icon := ← fs.optional "icon" .string
    tooltip := ← fs.optional "tooltip" .string
    value := ← fs.required "value" metricValueOfDocument?
    format := (← fs.optional "format" Surround.ofDocument?).map Surround.apply }

/-! ## Overviews -/

/-- All of a column but its renderer. -/
def ColumnSpec.overview (c : ColumnSpec R) : Json :=
  Json.ofMembers
    [("key", .string c.key), ("label", .string c.label), ("type", c.kind.encode),
     ("icon", .orNull (c.icon.map .string)), ("sortable", .bool c.sortable), ("align", c.align.encode),
     ("rendered", .bool c.isRendered)]

/-- All of a metric but its value. -/
def MetricSpec.overview (m : MetricSpec R) : Json :=
  Json.ofMembers
    [("key", .string m.key), ("label", .string m.label), ("icon", .orNull (m.icon.map .string)),
     ("tooltip", .orNull (m.tooltip.map .string))]

end RecordScreens
