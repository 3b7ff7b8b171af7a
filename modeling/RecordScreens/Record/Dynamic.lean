import RecordScreens.Record.Basic

/-!
# Dynamic records

Records that are JSON objects. The id and the status are the members of these names,
as far as they are strings.
-/

namespace RecordScreens

/-- A record whose fields are the members of an object. -/
structure JsonRecord where
  members : Json.Object
  deriving DecidableEq

namespace JsonRecord

/-- The record of an object. -/
def ofJson? : Json → Option JsonRecord
  | .object members => some ⟨members⟩
  | _ => none

/-- The object of a record. -/
def toJson (r : JsonRecord) : Json := .object r.members

def get? (r : JsonRecord) (key : String) : Option Json := Dict.get? r.members key

/-- The record with another value for a field. -/
def set (r : JsonRecord) (key : String) (value : Json) : JsonRecord := ⟨Dict.insert r.members key value⟩

/-- The value of a field that is a string. -/
def text? (r : JsonRecord) (key : String) : Option String := (r.get? key).bind Json.asString?

instance : BoardRecord JsonRecord where
  id r := (r.text? "id").getD ""
  status r := r.text? "status"
  field := get?
  declared := none
  decode := ofJson?
  encode := toJson
  setStatus r status := r.set "status" (.string status)

end JsonRecord

end RecordScreens
