import RecordScreens.Record.Display

/-!
# Records

What screens need to know of a record: its id, its status and its fields by name. A
kind of record may declare its fields, and then only those can be shown as columns.
-/

namespace RecordScreens

/-- A kind of record that screens can show. -/
class Record (R : Type) where
  /-- What identifies the record. -/
  id : R → String
  /-- The status, if the record has one. -/
  status : R → Option String
  /-- The value of a field. -/
  field : R → String → Option Json
  /-- The names of the fields, if this kind of record declares them. -/
  declared : Option (List String)
  /-- Reads a record. -/
  decode : Json → Option R
  /-- Writes a record. -/
  encode : R → Json

/-- A kind of record whose status a board can change. -/
class BoardRecord (R : Type) extends Record R where
  /-- The record with another status. -/
  setStatus : R → String → R

namespace Record

variable {R : Type} [Record R]

/-- Whether a key may name a field of this kind of record. -/
def hasField (R : Type) [Record R] (key : String) : Bool :=
  match declared R with
  | some names => names.contains key
  | none => true

/-- The value of a field, with null for a missing one. -/
def valueOf (r : R) (key : String) : Json := Json.orNull (field r key)

/-- The full form of what can be read as a record of this kind: only its fields, and all of them. -/
def fullForm? (R : Type) [Record R] (v : Json) : Option Json := (decode v : Option R).map encode

end Record

end RecordScreens
