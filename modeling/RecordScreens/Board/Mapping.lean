import RecordScreens.Failure.Config
import RecordScreens.Json.Basic

/-!
# Column mappings

Which column of a board a status belongs to, and which status a record takes on when it
is dropped on a column. Several statuses may share a column; a status that no column
claims belongs to the fallback column.
-/

namespace RecordScreens

/-- A column of a board. -/
structure BoardColumn where
  id : String
  title : String
  color : Option String := none
  deriving DecidableEq, Repr

def BoardColumn.encode (c : BoardColumn) : Json :=
  Json.ofMembers <|
    [("id", .string c.id), ("title", .string c.title)] ++ Json.optional "color" (c.color.map .string)

/-- A column together with the statuses that it claims. -/
structure ColumnClaim where
  column : BoardColumn
  /-- The first of them is the status of what is dropped on the column. -/
  statuses : List String
  deriving DecidableEq, Repr

/-- Which status belongs to which column. -/
structure ColumnMapping where
  claims : List ColumnClaim
  /-- The column of the statuses that no column claims. -/
  fallback : String
  /-- The statuses that keep a record off the board. -/
  hidden : List String
  deriving DecidableEq, Repr

namespace ColumnMapping

/-- The columns in order. -/
def columns (m : ColumnMapping) : List BoardColumn := m.claims.map (·.column)

/-- The column with an id. -/
def column? (m : ColumnMapping) (id : String) : Option BoardColumn := m.columns.find? (·.id == id)

/-- The column that a status belongs to. -/
def columnOf (m : ColumnMapping) (status : String) : String :=
  match m.claims.find? (·.statuses.contains status) with
  | some claim => claim.column.id
  | none => m.fallback

/-- The status that a record takes on in a column. -/
def dropStatus? (m : ColumnMapping) (column : String) : Option String :=
  (m.claims.find? (·.column.id == column)).bind (·.statuses.head?)

/-- Whether a status keeps a record off the board. -/
def isHidden (m : ColumnMapping) (status : String) : Bool := m.hidden.contains status

end ColumnMapping

/-- A column mapping in the making. -/
structure MappingDraft where
  claims : List ColumnClaim := []
  fallback : Option String := none
  hidden : List String := []
  deriving DecidableEq, Repr

namespace MappingDraft

/-- Adds a column. -/
def column (d : MappingDraft) (id title : String) (statuses : List String) : MappingDraft :=
  { d with claims := d.claims ++ [{ column := { id, title }, statuses }] }

/-- Colors the column that was added last; without one, nothing. -/
def color (d : MappingDraft) (color : String) : MappingDraft :=
  match d.claims.getLast? with
  | some claim =>
    { d with claims := d.claims.dropLast ++ [{ claim with column := { claim.column with color := some color } }] }
  | none => d

/-- Adds statuses to those seen so far, of which none may be there already. -/
def claimStatuses (seen : List String) : List String → Except ConfigError (List String)
  | [] => .ok seen
  | s :: rest =>
    if s ∈ seen then .error (.duplicateId "status" s) else claimStatuses (s :: seen) rest

/-- Checks the columns in turn: an id of its own, at least one status, and no status taken before. -/
def checkClaims (ids seen : List String) : List ColumnClaim → Except ConfigError Unit
  | [] => .ok ()
  | claim :: rest => do
    ConfigError.ensure (.duplicateId "column" claim.column.id) (claim.column.id ∉ ids)
    ConfigError.ensure (.missingField "BoardColumn" "statuses") (!claim.statuses.isEmpty)
    checkClaims (claim.column.id :: ids) (← claimStatuses seen claim.statuses) rest

/-- The column of the unclaimed statuses: the given one, else the first. -/
def fallbackColumn (first : ColumnClaim) (claims : List ColumnClaim) :
    Option String → Except ConfigError String
  | none => .ok first.column.id
  | some id => if claims.any (·.column.id == id) then .ok id else .error (.unknownColumn id)

/-- The mapping of a draft, or its first fault. -/
def build (d : MappingDraft) : Except ConfigError ColumnMapping := do
  let first ← ConfigError.require "ColumnMapping" "columns" d.claims.head?
  checkClaims [] [] d.claims
  let fallback ← fallbackColumn first d.claims d.fallback
  return { claims := d.claims, fallback, hidden := d.hidden }

end MappingDraft

end RecordScreens
