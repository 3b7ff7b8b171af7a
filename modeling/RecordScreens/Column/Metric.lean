import RecordScreens.Record.Basic
import RecordScreens.Text.Quoted

/-!
# Metrics

The headline numbers of a record: values computed from it, each with a format of its own.
-/

namespace RecordScreens

/-- A value computed from a record, and how it is written. -/
structure MetricSpec (R : Type) where
  key : String
  label : String
  icon : Option String := none
  tooltip : Option String := none
  value : R → Json
  format : Option (Json → String) := none

namespace MetricSpec

variable {R : Type}

/-- The text of the metric for a record. -/
def display (m : MetricSpec R) (r : R) : String :=
  match m.format with
  | some format => format (m.value r)
  | none => (m.value r).display

/-- The form in which a diagnostic shows a metric. -/
def diagnostic (m : MetricSpec R) : String :=
  Text.fieldsText "MetricSpec"
    [("key", Text.quoted m.key), ("label", Text.quoted m.label),
     ("has_format", Text.boolText m.format.isSome)]

end MetricSpec

end RecordScreens
