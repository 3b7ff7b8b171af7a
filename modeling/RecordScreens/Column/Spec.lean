import RecordScreens.Failure.Config
import RecordScreens.Json.Decoder
import RecordScreens.Record.Basic
import RecordScreens.Text.Quoted

/-!
# Columns

The columns of a list, and the fields under the title of a record. A column shows the
field of its key, or what its renderer makes of that field and the record.
-/

namespace RecordScreens

/-! ## Kinds and alignment -/

/-- What the values of a column mean. -/
inductive ColumnKind where
  | text
  | number
  | currency
  | date
  | status
  | boolean
  deriving DecidableEq, Repr

namespace ColumnKind

def name : ColumnKind → String
  | text => "text"
  | number => "number"
  | currency => "currency"
  | date => "date"
  | status => "status"
  | boolean => "boolean"

/-- The name of a kind as a diagnostic shows it. -/
def diagnostic : ColumnKind → String
  | text => "Text"
  | number => "Number"
  | currency => "Currency"
  | date => "Date"
  | status => "Status"
  | boolean => "Boolean"

def encode (k : ColumnKind) : Json := .string k.name

def decode : Decoder ColumnKind :=
  Decoder.named ([text, number, currency, date, status, boolean].map fun k => (k.name, k))

end ColumnKind

/-- Where the text of a cell stands. -/
inductive Align where
  | left
  | center
  | right
  deriving DecidableEq, Repr

namespace Align

def name : Align → String
  | left => "left"
  | center => "center"
  | right => "right"

def encode (a : Align) : Json := .string a.name

def decode : Decoder Align := Decoder.named ([left, center, right].map fun a => (a.name, a))

end Align

/-! ## Columns -/

/-- A column for the field of its key. -/
structure ColumnSpec (R : Type) where
  key : String
  label : String
  kind : ColumnKind := .text
  icon : Option String := none
  /-- Whether a list can be sorted by this column. -/
  sortable : Bool := false
  align : Align := .left
  /-- Makes the text of a cell from the field and the record. -/
  render : Option (Json → R → String) := none

namespace ColumnSpec

variable {R : Type}

/-- Whether the text of the cells is computed. -/
def isRendered (c : ColumnSpec R) : Bool := c.render.isSome

/-- The value of the field, with null for a missing one. -/
def value [Record R] (c : ColumnSpec R) (r : R) : Json := Record.valueOf r c.key

/-- The text of the cell for a record. -/
def display [Record R] (c : ColumnSpec R) (r : R) : String :=
  match c.render with
  | some render => render (c.value r) r
  | none => (c.value r).display

/-- The column with a key. -/
def find? (columns : List (ColumnSpec R)) (key : String) : Option (ColumnSpec R) :=
  columns.find? (·.key == key)

/-- Whether a list with these columns can be sorted by a key. -/
def sortableBy (columns : List (ColumnSpec R)) (key : String) : Bool :=
  columns.any fun c => c.key == key && c.sortable

/-- A column without a renderer names a field of the record. -/
def checkField [Record R] (c : ColumnSpec R) : Except ConfigError Unit :=
  if c.isRendered ∨ Record.hasField R c.key then .ok () else .error (.unknownField "column" c.key)

/-- No two columns share a key, and every column has something to show. -/
def checkAll [Record R] (columns : List (ColumnSpec R)) : Except ConfigError Unit := do
  ensureUnique "column" (columns.map (·.key))
  columns.forM checkField

/-- The form in which a diagnostic shows a column. -/
def diagnostic (c : ColumnSpec R) : String :=
  Text.fieldsText "ColumnSpec"
    [("key", Text.quoted c.key), ("label", Text.quoted c.label), ("column_type", c.kind.diagnostic),
     ("sortable", Text.boolText c.sortable), ("has_render", Text.boolText c.isRendered)]

end ColumnSpec

end RecordScreens
