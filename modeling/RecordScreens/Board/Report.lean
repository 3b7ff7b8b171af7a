import RecordScreens.Board.Basic
import RecordScreens.Failure.Report

/-!
# Reports of boards

What is on a board and what became of drags and commits, as JSON.
-/

namespace RecordScreens

def DropOutcome.report : DropOutcome → Json
  | .idle => .string "idle"
  | .click id => Json.ofMembers [("click", .string id)]
  | .unchanged id => Json.ofMembers [("unchanged", .string id)]
  | .commit c =>
    Json.ofMembers
      [("commit", .string c.recordId), ("from", .string c.statusBefore), ("to", .string c.statusAfter),
       ("debug", .string c.diagnostic)]

def CommitResult.report (c : CommitResult) : Json :=
  Json.ofMembers
    [("id", .string c.recordId), ("from", .string c.statusBefore), ("to", .string c.statusAfter),
     ("result", QueryError.reportResult c.result)]

def SettleOutcome.report : SettleOutcome → Json
  | .committed id status => Json.ofMembers [("committed", .string id), ("status", .string status)]
  | .reverted id status e =>
    Json.ofMembers [("reverted", .string id), ("status", .string status), ("error", e.report)]
  | .superseded id => Json.ofMembers [("superseded", .string id)]

/-- Where the records are, after what was done; in full also the records themselves. -/
def Board.report {R : Type} [BoardRecord R] (b : Board R) (full : Bool) (result : Json) : Json :=
  let ids (records : List R) := records.map Record.id
  let column (c : ColumnView R) := Json.array [.string c.column.id, .strings (ids c.records)]
  let contents := [("records", Json.array (b.records.map Record.encode)),
    ("mapping", .array (b.mapping.columns.map (·.encode)))]
  Json.ofMembers <|
    [("result", result), ("columns", .array (b.columns.map column)),
     ("dragging", .orNull (b.dragging.map .string)), ("committing", .strings ((ids b.records).filter b.isCommitting))]
    ++ if full then contents else []

end RecordScreens
