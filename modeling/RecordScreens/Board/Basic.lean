import RecordScreens.Board.Mapping
import RecordScreens.Query.Binder
import RecordScreens.Record.Basic
import RecordScreens.Text.Quoted

/-!
# Boards

Records in columns by status, on a copy of what the source holds. A record that is
dragged over a column takes on its status at once; when it is dropped with another
status than it had before, a commit is handed out, and when that settles with an error,
the record goes back.
-/

namespace RecordScreens

-- ---------------------------------------------------------------------------
-- Commits
-- ---------------------------------------------------------------------------

/-- A change of status that was not sent yet. -/
structure PendingCommit where
  recordId : String
  /-- The status before the drag. -/
  statusBefore : String
  statusAfter : String
  /-- Tells the commits of a board apart. -/
  ticket : Nat
  /-- The mutation that it runs. -/
  key : String
  /-- The query keys that the mutation invalidates. -/
  invalidates : List String
  deriving DecidableEq

/-- A change of status that was sent and answered. -/
structure CommitResult where
  recordId : String
  statusBefore : String
  statusAfter : String
  ticket : Nat
  result : Except QueryError Json

namespace PendingCommit

/-- The parameters of the mutation. -/
def params (c : PendingCommit) : Json :=
  Json.ofMembers [("id", .string c.recordId), ("status", .string c.statusAfter)]

/-- The result of a commit with the answer to its mutation. -/
def answered (c : PendingCommit) (result : Except QueryError Json) : CommitResult :=
  { recordId := c.recordId, statusBefore := c.statusBefore, statusAfter := c.statusAfter, ticket := c.ticket, result }

/-- Sends the mutation and awaits its answer. -/
def run {S : Type} [DataSource S] (c : PendingCommit) : Routine (Binder S) CommitResult := do
  return c.answered (← Binder.mutate c.key c.params c.invalidates)

/-- The form in which a diagnostic shows a commit. -/
def diagnostic (c : PendingCommit) : String :=
  Text.openFieldsText "PendingCommit"
    [("record_id", Text.quoted c.recordId), ("from", Text.quoted c.statusBefore),
     ("to", Text.quoted c.statusAfter), ("ticket", toString c.ticket)]

end PendingCommit

-- ---------------------------------------------------------------------------
-- Gestures
-- ---------------------------------------------------------------------------

/-- A place of the pointer. -/
structure Point where
  x : Float32
  y : Float32

/-- How far two places are apart. -/
def Point.distance (p q : Point) : Float32 :=
  let dx := p.x - q.x
  let dy := p.y - q.y
  if dx.isInf || dy.isInf then 1.0 / 0.0
  else (dx.toFloat * dx.toFloat + dy.toFloat * dy.toFloat).sqrt.toFloat32

/-- A record that is being dragged. -/
structure DragSession where
  recordId : String
  /-- The status before the drag. -/
  statusBefore : String
  /-- The column of that status. -/
  origin : String
  deriving DecidableEq, Repr

/-- What the pointer is doing. -/
inductive Gesture where
  | idle
  /-- It went down on a record and has not moved far. -/
  | pressed (recordId : String) (origin : Point)
  | dragging (session : DragSession)

/-- What came of the end of a gesture. -/
inductive DropOutcome where
  | idle
  /-- The pointer had not moved far. -/
  | click (recordId : String)
  /-- The record has the status that it had before. -/
  | unchanged (recordId : String)
  | commit (c : PendingCommit)
  deriving DecidableEq

/-- What settling a commit did. -/
inductive SettleOutcome where
  | committed (recordId status : String)
  /-- The commit failed, and the record went back to this status. -/
  | reverted (recordId status : String) (e : QueryError)
  /-- A newer commit of the record was handed out; the record is left to that one. -/
  | superseded (recordId : String)
  deriving DecidableEq

-- ---------------------------------------------------------------------------
-- Boards
-- ---------------------------------------------------------------------------

/-- How far the pointer moves before a press becomes a drag. -/
def defaultActivationDistance : Float32 := 8.0

/-- Records in columns, what the pointer is doing, and the commits under way. -/
structure Board (R : Type) where
  mapping : ColumnMapping
  /-- The mutation of commits. -/
  commitKey : String
  /-- The query keys that a commit invalidates. -/
  invalidates : List String := []
  activationDistance : Float32 := defaultActivationDistance
  records : List R := []
  gesture : Gesture := .idle
  /-- How many commits were handed out. -/
  lastTicket : Nat := 0
  /-- The newest commit of each record that has one under way. -/
  inFlight : Dict Nat := []

/-- A column with the records in it. -/
structure ColumnView (R : Type) where
  column : BoardColumn
  records : List R

namespace Board

variable {R : Type} [BoardRecord R]

/-- The status of a record; none is the empty one. -/
def statusOf (r : R) : String := (Record.status r).getD ""

/-- The first record with an id. -/
def record? (b : Board R) (id : String) : Option R := b.records.find? fun r => Record.id r == id

/-- Takes in new records. A gesture ends. -/
def replace (records : List R) (b : Board R) : Board R := { b with records, gesture := .idle }

/-- Whether a record is shown in a column. -/
def isIn (m : ColumnMapping) (column : String) (r : R) : Bool :=
  !m.isHidden (statusOf r) && m.columnOf (statusOf r) == column

/-- The columns in order with their records. -/
def columns (b : Board R) : List (ColumnView R) :=
  b.mapping.columns.map fun column => { column, records := b.records.filter (isIn b.mapping column.id) }

/-- The id of the record that is being dragged. -/
def dragging (b : Board R) : Option String :=
  match b.gesture with
  | .dragging session => some session.recordId
  | _ => none

/-- Whether a commit of a record is under way. -/
def isCommitting (b : Board R) (id : String) : Bool := Dict.contains b.inFlight id

/-- Changes the status of the first record with an id. -/
def setStatusOf (id status : String) : List R → List R
  | [] => []
  | r :: rest =>
    if Record.id r = id then BoardRecord.setStatus r status :: rest else r :: setStatusOf id status rest

/-- Changes the status of a record on the board. -/
def setStatus (id status : String) (b : Board R) : Board R :=
  { b with records := setStatusOf id status b.records }

-- ---------------------------------------------------------------------------
-- Pointer
-- ---------------------------------------------------------------------------

/-- Presses on a record, if it is there. -/
def pointerDown (id : String) (place : Point) (b : Board R) : Bool × Board R :=
  if (b.record? id).isSome then (true, { b with gesture := .pressed id place }) else (false, b)

/-- Starts to drag a record, if it is there. -/
def beginDrag (id : String) (b : Board R) : Bool × Board R :=
  match b.record? id with
  | none => (false, b)
  | some r =>
    let status := statusOf r
    (true, { b with
      gesture := .dragging { recordId := id, statusBefore := status, origin := b.mapping.columnOf status } })

/-- Moves the pointer; a press that has moved far enough becomes a drag. Says whether a drag is on. -/
def pointerMove (place : Point) (b : Board R) : Bool × Board R :=
  match b.gesture with
  | .idle => (false, b)
  | .dragging _ => (true, b)
  | .pressed id origin =>
    if b.activationDistance < place.distance origin then b.beginDrag id else (false, b)

-- ---------------------------------------------------------------------------
-- Drags
-- ---------------------------------------------------------------------------

/-- The status of a dragged record over a column: over its own column the one that it had before. -/
def statusOver (m : ColumnMapping) (session : DragSession) (column : String) : Option String :=
  if column = session.origin then some session.statusBefore else m.dropStatus? column

/-- Drags over a column, which has to be declared. -/
def dragOver (column : String) (b : Board R) : Bool × Board R :=
  match b.gesture with
  | .dragging session =>
    match statusOver b.mapping session column with
    | some status => (true, b.setStatus session.recordId status)
    | none => (false, b)
  | _ => (false, b)

/-- Gives up a gesture; a dragged record goes back. -/
def dragCancel (b : Board R) : Board R :=
  match b.gesture with
  | .dragging session => { b with gesture := .idle }.setStatus session.recordId session.statusBefore
  | _ => { b with gesture := .idle }

/-- Hands out a commit of a record. -/
def issueCommit (session : DragSession) (status : String) (b : Board R) : PendingCommit × Board R :=
  let ticket := b.lastTicket + 1
  ({ recordId := session.recordId, statusBefore := session.statusBefore, statusAfter := status, ticket,
     key := b.commitKey, invalidates := b.invalidates },
   { b with lastTicket := ticket, inFlight := Dict.insert b.inFlight session.recordId ticket })

/-- Ends a gesture. A record that was dragged to another status is to be committed. -/
def dragEnd (b : Board R) : DropOutcome × Board R :=
  let idle := { b with gesture := .idle }
  match b.gesture with
  | .idle => (.idle, idle)
  | .pressed id _ => (.click id, idle)
  | .dragging session =>
    let status := ((b.record? session.recordId).map statusOf).getD ""
    if status = session.statusBefore then (.unchanged session.recordId, idle)
    else
      let (commit, b) := issueCommit session status idle
      (.commit commit, b)

/-- Takes in the result of a commit. -/
def settle (c : CommitResult) (b : Board R) : SettleOutcome × Board R :=
  if Dict.get? b.inFlight c.recordId = some c.ticket then
    let b := { b with inFlight := Dict.erase b.inFlight c.recordId }
    match c.result with
    | .ok _ => (.committed c.recordId c.statusAfter, b)
    | .error e => (.reverted c.recordId c.statusBefore e, b.setStatus c.recordId c.statusBefore)
  else (.superseded c.recordId, b)

end Board

end RecordScreens
